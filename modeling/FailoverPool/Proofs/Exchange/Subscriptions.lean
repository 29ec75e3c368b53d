import FailoverPool.Proofs.Exchange.Ending
import FailoverPool.Proofs.Exchange.Registry

/-!
The watchers of a connection, and what the server is asked for them.

The server learns of watchers only by frames that are sent for three reasons: a key has got its
first watcher, an event of it has been told, or it has lost its last watcher. What the frames for a
key ask for in the end (`asked`) is what the key's watchers need, as long as callbacks leave the
registry alone. Main statement: `relays_of_connect`.
-/

namespace FailoverPool

/-- Whether the frame asks for events of the key, or for no more of them. -/
def Outgoing.asks? (key : String) : Outgoing → Option Bool
  | .watch _ other => if other = key then some true else none
  | .unwatch _ other => if other = key then some false else none
  | .request _ _ _ => none

/-- The callback unregisters nobody. It may panic. -/
def Reaction.IsHarmless (reaction : Reaction) : Prop := reaction.unregisters = []

namespace Exchange

/-- A callback that is registered by this move is harmless. -/
def Move.IsHarmless : Move → Prop
  | .watch _ reaction => reaction.IsHarmless
  | _ => True

/-- What the server was asked for a key, in turn: for its events, or for no more of them. -/
def asked (exchange : Exchange) (key : String) : List Bool :=
  exchange.sent.filterMap (Outgoing.asks? key)

/-- What a move makes of the watchers of a key. -/
def enlist (exchange : Exchange) (key : String) (watchers : List Watcher) : Move → List Watcher
  | .watch other reaction =>
      if exchange.isConnected && other = key then watchers ++ [⟨exchange.nextWatcher, reaction⟩]
      else watchers
  | .unregister handle =>
      if handle.key = key then watchers.filter (·.id ≠ handle.id) else watchers
  | _ => watchers

/-- What a run makes of them: those that were registered, in that order, but for those that were
unregistered since. -/
def enlisted (exchange : Exchange) (key : String) (watchers : List Watcher) :
    List Move → List Watcher
  | [] => watchers
  | move :: later =>
      (exchange.step move).enlisted key (exchange.enlist key watchers move) later

/-- An event of a key is told to these watchers, one after another, and when it has been told to
all of them the server is asked for the next one. Nothing else is done. -/
inductive Delivers (exchange : Exchange) (key : String) (value : Option Value) :
    List Watcher → Exchange → Prop where
  | nobody (unread : Bytes) : Delivers exchange key value [] { exchange with unread }
  | all {watchers : List Watcher} (unread : Bytes) : watchers ≠ [] →
      Delivers exchange key value watchers
        (sendWatch
          { exchange with unread, calls := exchange.calls ++ watchers.map (·.call key value) } key)

variable {exchange before after : Exchange} {key : String}

theorem isClosed_eq_of_isConnected (connected : exchange.isConnected = true) :
    exchange.isClosed = false := by
  have isState : exchange.state = .connected := by simpa [isConnected] using connected
  rw [isClosed, isState]
  rfl

theorem asked_sendWatch (exchange : Exchange) (other key : String) :
    (exchange.sendWatch other).asked key =
      exchange.asked key ++ if other = key then [true] else [] := by
  rw [asked, asked, sendWatch, List.filterMap_append]
  by_cases same : other = key <;> simp [Outgoing.asks?, same]

theorem asked_sendUnwatch (exchange : Exchange) (other key : String) :
    (exchange.sendUnwatch other).asked key =
      exchange.asked key ++ if other = key then [false] else [] := by
  rw [asked, asked, sendUnwatch, List.filterMap_append]
  by_cases same : other = key <;> simp [Outgoing.asks?, same]

/-- Nothing was done to watchers or for them. -/
structure SparesWatchers (before after : Exchange) : Prop where
  watchers : after.watchers = before.watchers
  nextWatcher : after.nextWatcher = before.nextWatcher
  asked : ∀ key, after.asked key = before.asked key

namespace SparesWatchers

theorem refl (exchange : Exchange) : exchange.SparesWatchers exchange := ⟨rfl, rfl, fun _ => rfl⟩

theorem trans {first second third : Exchange} (earlier : first.SparesWatchers second)
    (later : second.SparesWatchers third) : first.SparesWatchers third where
  watchers := later.watchers.trans earlier.watchers
  nextWatcher := later.nextWatcher.trans earlier.nextWatcher
  asked key := (later.asked key).trans (earlier.asked key)

end SparesWatchers

theorem sparesWatchers_resolve (exchange : Exchange) (sync : UInt64) (outcome : Outcome) :
    exchange.SparesWatchers (exchange.resolve sync outcome) := by
  unfold resolve
  split
  · exact ⟨rfl, rfl, fun _ => rfl⟩
  · exact .refl exchange

theorem sparesWatchers_teardown (exchange : Exchange) :
    exchange.SparesWatchers exchange.teardown := by
  cases isOpen : exchange.isClosed with
  | true =>
      rw [teardown, if_pos isOpen]
      exact .refl exchange
  | false =>
      rw [teardown_eq isOpen]
      exact ⟨rfl, rfl, fun _ => rfl⟩

/-- The move is an affair of watchers: of one that comes or goes, or of an event for them. -/
def ConcernsWatchers (exchange : Exchange) : Move → Prop
  | .watch _ _ | .unregister _ => True
  | .read => ∃ key value, exchange.incoming = .event key value
  | _ => False

theorem sparesWatchers_step {move : Move} (isOther : ¬ exchange.ConcernsWatchers move) :
    exchange.SparesWatchers (exchange.step move) := by
  cases move with
  | watch | unregister => exact absurd trivial isOther
  | send now stream request =>
      rw [step, send]
      split
      · refine ⟨rfl, rfl, fun key => ?_⟩
        simp [asked, Outgoing.asks?]
      · exact .refl exchange
  | openStream | forget => exact ⟨rfl, rfl, fun _ => rfl⟩
  | poll now sync =>
      obtain ⟨pending, futures, isPoll, _⟩ := exchange.poll_fst now sync
      rw [step, isPoll]
      exact ⟨rfl, rfl, fun _ => rfl⟩
  | arrive bytes =>
      rw [step, arrive]
      split
      · exact .refl exchange
      · exact ⟨rfl, rfl, fun _ => rfl⟩
  | read =>
      rw [step]
      cases isOpen : exchange.isClosed with
      | true =>
          rw [readNext_of_isClosed isOpen]
          exact .refl exchange
      | false =>
          have unread (bytes : Bytes) : exchange.SparesWatchers { exchange with unread := bytes } :=
            ⟨rfl, rfl, fun _ => rfl⟩
          have reads := reads_readNext isOpen
          unfold ConcernsWatchers at isOther
          generalize exchange.incoming = incoming, exchange.readNext = after at reads isOther ⊢
          cases reads with
          | nothing => exact .refl exchange
          | event key value => exact absurd ⟨key, value, rfl⟩ isOther
          | response response bytes => exact (unread bytes).trans (sparesWatchers_resolve _ _ _)
          | breach error bytes => exact (unread bytes).trans (sparesWatchers_teardown _)
  | endInput | fail => exact exchange.sparesWatchers_teardown
  | close =>
      rw [step, close_fst]
      exact exchange.sparesWatchers_teardown

/-- All callbacks that are registered are harmless. -/
def HasHarmless (exchange : Exchange) : Prop :=
  ∀ key, ∀ watcher ∈ exchange.watchers.watchersOf key, watcher.reaction.IsHarmless

theorem runCallback_of_isHarmless {watcher : Watcher} (isHarmless : watcher.reaction.IsHarmless)
    (exchange : Exchange) (key : String) (value : Option Value) :
    exchange.runCallback key value watcher =
      { exchange with calls := exchange.calls ++ [watcher.call key value] } := by
  rw [runCallback_eq, callback, isHarmless]
  rfl

theorem foldl_runCallback {watchers : List Watcher}
    (areHarmless : ∀ watcher ∈ watchers, watcher.reaction.IsHarmless) (exchange : Exchange)
    (key : String) (value : Option Value) :
    watchers.foldl (fun exchange watcher => exchange.runCallback key value watcher) exchange =
      { exchange with calls := exchange.calls ++ watchers.map (·.call key value) } := by
  induction watchers generalizing exchange with
  | nil => simp
  | cons watcher later inductionHypothesis =>
      obtain ⟨isHarmless, areHarmlessLater⟩ := List.forall_mem_cons.mp areHarmless
      rw [List.foldl_cons, runCallback_of_isHarmless isHarmless,
        inductionHypothesis areHarmlessLater]
      simp

theorem delivers_handleEvent
    (areHarmless : ∀ watcher ∈ exchange.watchers.watchersOf key, watcher.reaction.IsHarmless)
    (value : Option Value) (unread : Bytes) :
    exchange.Delivers key value (exchange.watchers.watchersOf key)
      ({ exchange with unread }.handleEvent key value) := by
  have sameWatchers : ({ exchange with unread } : Exchange).watchers.watchersOf key =
      exchange.watchers.watchersOf key := rfl
  unfold handleEvent
  rw [sameWatchers]
  split
  · next isUnwatched =>
    rw [isUnwatched]
    exact .nobody unread
  · next isWatched =>
    rw [foldl_runCallback areHarmless]
    exact .all unread isWatched

/-- An event is told to all watchers that its key has at this moment. -/
theorem delivers_step (harmless : exchange.HasHarmless) (isOpen : exchange.isClosed = false)
    {value : Option Value} (isIncoming : exchange.incoming = .event key value) :
    exchange.Delivers key value (exchange.watchers.watchersOf key) (exchange.step .read) := by
  have reads := reads_readNext isOpen
  rw [isIncoming] at reads
  rw [step]
  generalize exchange.readNext = after at reads ⊢
  cases reads with
  | event _ _ unread => exact delivers_handleEvent (harmless key) value unread

/-- What a move asks the server for a key whose watchers it changes in this way. -/
inductive Asks (had has : List Watcher) : List Bool → Prop where
  | nothing : (had = [] ↔ has = []) → Asks had has []
  /-- A key has got its first watcher, or an event of it has been told. -/
  | more : has ≠ [] → Asks had has [true]
  | noMore : had ≠ [] → has = [] → Asks had has [false]

theorem watch_of_isConnected (connected : exchange.isConnected = true) (key : String)
    (reaction : Reaction) :
    let registered := { exchange with
      nextWatcher := exchange.nextWatcher + 1
      watchers := exchange.watchers.add key ⟨exchange.nextWatcher, reaction⟩ }
    exchange.watch key reaction =
      (if exchange.watchers.isUnwatched key then registered.sendWatch key else registered,
        .ok ⟨exchange.nextWatcher, key⟩) := by
  rw [watch, if_pos connected]

theorem watchers_watch (connected : exchange.isConnected = true) (key : String)
    (reaction : Reaction) :
    (exchange.watch key reaction).1.watchers =
        exchange.watchers.add key ⟨exchange.nextWatcher, reaction⟩ ∧
      (exchange.watch key reaction).1.nextWatcher = exchange.nextWatcher + 1 := by
  rw [watch_of_isConnected connected]
  dsimp only
  split <;> exact ⟨rfl, rfl⟩

theorem watchers_unregister (exchange : Exchange) (handle : WatcherHandle) :
    (exchange.unregister handle).watchers = exchange.watchers.remove handle ∧
      (exchange.unregister handle).nextWatcher = exchange.nextWatcher := by
  unfold unregister
  dsimp only
  split <;> exact ⟨rfl, rfl⟩

theorem Delivers.watchers_eq {watchers : List Watcher} {value : Option Value}
    (delivers : before.Delivers key value watchers after) :
    after.watchers = before.watchers ∧ after.nextWatcher = before.nextWatcher := by
  cases delivers <;> exact ⟨rfl, rfl⟩

theorem asks_watch (connected : exchange.isConnected = true) (other key : String)
    (reaction : Reaction) :
    ∃ news, (exchange.watch other reaction).1.asked key = exchange.asked key ++ news ∧
      Asks (exchange.watchers.watchersOf key)
        ((exchange.watch other reaction).1.watchers.watchersOf key) news := by
  rw [(watchers_watch connected other reaction).1, WatcherRegistry.watchersOf_add,
    watch_of_isConnected connected]
  dsimp only
  cases isFirst : exchange.watchers.isUnwatched other with
  | true =>
      rw [if_pos rfl, asked_sendWatch]
      refine ⟨_, rfl, ?_⟩
      by_cases isKey : other = key
      · rw [if_pos isKey, if_pos isKey]
        exact .more (by simp)
      · rw [if_neg isKey, if_neg isKey]
        exact .nothing Iff.rfl
  | false =>
      refine ⟨[], (List.append_nil _).symm, .nothing ?_⟩
      by_cases isKey : other = key
      · subst isKey
        simpa using WatcherRegistry.isUnwatched_eq_false_iff.mp isFirst
      · rw [if_neg isKey]

/-- The server is told of a key that loses its last watcher. -/
theorem asked_unregister (connected : exchange.isConnected = true)
    (tidy : exchange.watchers.IsTidy) (handle : WatcherHandle) (key : String) :
    (exchange.unregister handle).asked key = exchange.asked key ++
      if exchange.watchers.watchersOf key ≠ [] ∧
          (exchange.watchers.remove handle).watchersOf key = [] then [false] else [] := by
  have isOther (differs : handle.key ≠ key) : (exchange.watchers.remove handle).watchersOf key =
      exchange.watchers.watchersOf key := by
    rw [WatcherRegistry.watchersOf_remove tidy, if_neg differs]
  unfold unregister
  dsimp only
  rw [connected, Bool.and_true]
  split
  · next isLast =>
    rw [Bool.and_eq_true, Bool.not_eq_true', WatcherRegistry.isUnwatched_eq_false_iff] at isLast
    have isGone : (exchange.watchers.remove handle).watchersOf handle.key = [] := by
      simpa [WatcherRegistry.isUnwatched] using isLast.2
    rw [asked_sendUnwatch]
    by_cases isKey : handle.key = key
    · subst isKey
      rw [if_pos rfl, if_pos ⟨isLast.1, isGone⟩]
      rfl
    · rw [if_neg isKey, isOther isKey, if_neg (by simp)]
      rfl
  · next isNotLast =>
    by_cases isKey : handle.key = key
    · subst isKey
      rw [if_neg (by simpa [WatcherRegistry.isUnwatched] using isNotLast), List.append_nil]
      rfl
    · rw [isOther isKey, if_neg (by simp), List.append_nil]
      rfl

theorem asks_unregister (connected : exchange.isConnected = true)
    (tidy : exchange.watchers.IsTidy) (handle : WatcherHandle) (key : String) :
    ∃ news, (exchange.unregister handle).asked key = exchange.asked key ++ news ∧
      Asks (exchange.watchers.watchersOf key)
        ((exchange.unregister handle).watchers.watchersOf key) news := by
  rw [(exchange.watchers_unregister handle).1]
  refine ⟨_, asked_unregister connected tidy handle key, ?_⟩
  split
  · next isLost => exact .noMore isLost.1 isLost.2
  · next isNotLost =>
    refine .nothing ⟨fun wasUnwatched => ?_, fun isUnwatched => ?_⟩
    · rw [WatcherRegistry.watchersOf_remove tidy, wasUnwatched, List.filter_nil, ite_self]
    · by_contra wasWatched
      exact isNotLost ⟨wasWatched, isUnwatched⟩

theorem Delivers.asks {watchers : List Watcher} {other : String} {value : Option Value}
    (delivers : before.Delivers other value watchers after)
    (areWatchers : watchers = before.watchers.watchersOf other) (key : String) :
    ∃ news, after.asked key = before.asked key ++ news ∧
      Asks (before.watchers.watchersOf key) (after.watchers.watchersOf key) news := by
  rw [delivers.watchers_eq.1]
  cases delivers with
  | nobody => exact ⟨[], (List.append_nil _).symm, .nothing Iff.rfl⟩
  | all unread isWatched =>
      refine ⟨_, asked_sendWatch _ other key, ?_⟩
      by_cases isKey : other = key
      · subst isKey
        rw [if_pos rfl]
        exact .more (areWatchers ▸ isWatched)
      · rw [if_neg isKey]
        exact .nothing Iff.rfl

/-- As long as no event is told, the server is asked for what the watchers of a key need. -/
theorem asks_of_isQuiet {move : Move} (connected : exchange.isConnected = true)
    (tidy : exchange.watchers.IsTidy)
    (isQuiet : move = .read → ∀ key value, exchange.incoming ≠ .event key value) (key : String) :
    ∃ news, (exchange.step move).asked key = exchange.asked key ++ news ∧
      Asks (exchange.watchers.watchersOf key) ((exchange.step move).watchers.watchersOf key)
        news := by
  by_cases concerns : exchange.ConcernsWatchers move
  · cases move with
    | watch other reaction => exact asks_watch connected other key reaction
    | unregister handle => exact asks_unregister connected tidy handle key
    | read =>
        obtain ⟨other, value, isIncoming⟩ := concerns
        exact absurd isIncoming (isQuiet rfl other value)
    | _ => exact concerns.elim
  · have spares := sparesWatchers_step concerns
    rw [spares.asked, spares.watchers]
    exact ⟨[], (List.append_nil _).symm, .nothing Iff.rfl⟩

theorem asks_step (connected : exchange.isConnected = true) (tidy : exchange.watchers.IsTidy)
    (harmless : exchange.HasHarmless) (move : Move) (key : String) :
    ∃ news, (exchange.step move).asked key = exchange.asked key ++ news ∧
      Asks (exchange.watchers.watchersOf key) ((exchange.step move).watchers.watchersOf key)
        news := by
  by_cases isQuiet : move = .read → ∀ key value, exchange.incoming ≠ .event key value
  · exact asks_of_isQuiet connected tidy isQuiet key
  · obtain ⟨rfl, other, value, isIncoming⟩ :
        move = .read ∧ ∃ key value, exchange.incoming = .event key value := by
      simpa using isQuiet
    have delivers := delivers_step harmless (isClosed_eq_of_isConnected connected) isIncoming
    exact delivers.asks rfl key

/-- Watchers come by a move of their own, and go by one, and by nothing else. -/
theorem registry_step (harmless : exchange.HasHarmless) (move : Move) :
    (∃ key reaction, move = .watch key reaction ∧ exchange.isConnected = true ∧
      (exchange.step move).watchers = exchange.watchers.add key ⟨exchange.nextWatcher, reaction⟩ ∧
      (exchange.step move).nextWatcher = exchange.nextWatcher + 1) ∨
    (∃ handle, move = .unregister handle ∧
      (exchange.step move).watchers = exchange.watchers.remove handle ∧
      (exchange.step move).nextWatcher = exchange.nextWatcher) ∨
    ((∀ key watchers, exchange.enlist key watchers move = watchers) ∧
      (exchange.step move).watchers = exchange.watchers ∧
      (exchange.step move).nextWatcher = exchange.nextWatcher) := by
  by_cases concerns : exchange.ConcernsWatchers move
  · cases move with
    | watch key reaction =>
        cases connected : exchange.isConnected with
        | true => exact .inl ⟨key, reaction, rfl, rfl, watchers_watch connected key reaction⟩
        | false =>
            refine .inr (.inr ⟨fun _ _ => by simp [enlist, connected], ?_⟩)
            rw [step, watch, if_neg (by simp [connected])]
            exact ⟨rfl, rfl⟩
    | unregister handle => exact .inr (.inl ⟨handle, rfl, exchange.watchers_unregister handle⟩)
    | read =>
        obtain ⟨key, value, isIncoming⟩ := concerns
        cases isOpen : exchange.isClosed with
        | true =>
            rw [step, readNext_of_isClosed isOpen]
            exact .inr (.inr ⟨fun _ _ => rfl, rfl, rfl⟩)
        | false =>
            have delivers := delivers_step harmless isOpen isIncoming
            exact .inr (.inr ⟨fun _ _ => rfl, delivers.watchers_eq⟩)
    | _ => exact concerns.elim
  · have spares := sparesWatchers_step concerns
    refine .inr (.inr ⟨fun key watchers => ?_, spares.watchers, spares.nextWatcher⟩)
    cases move with
    | watch | unregister => exact absurd trivial concerns
    | _ => rfl

theorem isTidy_step (tidy : exchange.watchers.IsTidy) (harmless : exchange.HasHarmless)
    (move : Move) : (exchange.step move).watchers.IsTidy := by
  rcases registry_step harmless move with
    ⟨key, reaction, _, _, isAdded, _⟩ | ⟨handle, _, isRemoved, _⟩ | ⟨_, isSame, _⟩
  · rw [isAdded]
    exact tidy.add key _
  · rw [isRemoved]
    exact tidy.remove handle
  · rw [isSame]
    exact tidy

theorem nextWatcher_step (harmless : exchange.HasHarmless) (move : Move) :
    exchange.nextWatcher ≤ (exchange.step move).nextWatcher := by
  rcases registry_step harmless move with
    ⟨_, _, _, _, _, isNext⟩ | ⟨_, _, _, isNext⟩ | ⟨_, _, isNext⟩
  all_goals omega

theorem watchersOf_step (tidy : exchange.watchers.IsTidy) (harmless : exchange.HasHarmless)
    (move : Move) (key : String) :
    (exchange.step move).watchers.watchersOf key =
      exchange.enlist key (exchange.watchers.watchersOf key) move := by
  rcases registry_step harmless move with
    ⟨other, reaction, rfl, connected, isAdded, _⟩ | ⟨handle, rfl, isRemoved, _⟩ |
    ⟨isNone, isSame, _⟩
  · rw [isAdded, WatcherRegistry.watchersOf_add]
    simp only [enlist, connected, Bool.true_and, decide_eq_true_eq]
  · rw [isRemoved, WatcherRegistry.watchersOf_remove tidy]
    rfl
  · rw [isSame, isNone]

theorem mem_enlist {watchers : List Watcher} {move : Move} {watcher : Watcher}
    (isEnlisted : watcher ∈ exchange.enlist key watchers move) :
    watcher ∈ watchers ∨ ∃ reaction, move = .watch key reaction ∧ exchange.isConnected = true ∧
      watcher = ⟨exchange.nextWatcher, reaction⟩ := by
  unfold enlist at isEnlisted
  split at isEnlisted
  · next other reaction =>
    split at isEnlisted
    · next isNew =>
      rw [Bool.and_eq_true, decide_eq_true_eq] at isNew
      obtain ⟨connected, rfl⟩ := isNew
      rcases List.mem_append.mp isEnlisted with wasEnlisted | isLast
      · exact .inl wasEnlisted
      · exact .inr ⟨reaction, rfl, connected, List.mem_singleton.mp isLast⟩
    · exact .inl isEnlisted
  · split at isEnlisted
    · exact .inl (List.mem_filter.mp isEnlisted).1
    · exact .inl isEnlisted
  · exact .inl isEnlisted

/-- A new watcher has a number of its own. -/
theorem nodup_enlist {watchers : List Watcher}
    (numbered : ∀ watcher ∈ watchers, watcher.id < exchange.nextWatcher)
    (distinct : (watchers.map Watcher.id).Nodup) (key : String) (move : Move) :
    ((exchange.enlist key watchers move).map Watcher.id).Nodup := by
  unfold enlist
  split
  · split
    · rw [List.map_append, List.nodup_append]
      refine ⟨distinct, List.nodup_singleton _, ?_⟩
      rintro id isEarlier _ isLast rfl
      obtain ⟨watcher, isWatcher, rfl⟩ := List.mem_map.mp isEarlier
      have isNew : watcher.id = exchange.nextWatcher := by simpa using isLast
      exact absurd isNew (Nat.ne_of_lt (numbered watcher isWatcher))
    · exact distinct
  · split
    · exact (List.filter_sublist.map Watcher.id).nodup distinct
    · exact distinct
  · exact distinct

/-- The watchers of a connection, as long as callbacks leave them alone. -/
structure Enlists (exchange : Exchange) (watchers : String → List Watcher) : Prop where
  registered : ∀ key, exchange.watchers.watchersOf key = watchers key
  tidy : exchange.watchers.IsTidy
  harmless : exchange.HasHarmless
  numbered : ∀ key, ∀ watcher ∈ watchers key, watcher.id < exchange.nextWatcher
  distinct : ∀ key, ((watchers key).map Watcher.id).Nodup
  wire : exchange.isConnected = true → ∀ key,
    (exchange.asked key).getLast? = some true ↔ watchers key ≠ []

theorem Asks.getLast?_eq {had has : List Watcher} {before news : List Bool}
    (asks : Asks had has news) (agreed : before.getLast? = some true ↔ had ≠ []) :
    (before ++ news).getLast? = some true ↔ has ≠ [] := by
  cases asks with
  | nothing same => simpa [agreed] using not_congr same
  | more isWatched => simp [isWatched]
  | noMore _ isUnwatched => simp [isUnwatched]

theorem Asks.count_eq {had has : List Watcher} {news : List Bool} (asks : Asks had has news) :
    news.count false = if had ≠ [] ∧ has = [] then 1 else 0 := by
  cases asks with
  | nothing same => simp [same]
  | more isWatched => simp [isWatched]
  | noMore wasWatched isUnwatched => simp [wasWatched, isUnwatched]

variable {address : String} {watchers : String → List Watcher}

theorem Enlists.step (enlists : exchange.Enlists watchers)
    (stage : exchange.IsAlive address ∨ exchange.IsOver address) (move : Move)
    (isHarmless : move.IsHarmless) :
    (exchange.step move).Enlists fun key => exchange.enlist key (watchers key) move := by
  have registered (key : String) : (exchange.step move).watchers.watchersOf key =
      exchange.enlist key (watchers key) move := by
    rw [watchersOf_step enlists.tidy enlists.harmless, enlists.registered]
  constructor
  · exact registered
  · exact isTidy_step enlists.tidy enlists.harmless move
  · intro key watcher isRegistered
    rw [registered] at isRegistered
    rcases mem_enlist isRegistered with wasEnlisted | ⟨reaction, rfl, _, rfl⟩
    · rw [← enlists.registered] at wasEnlisted
      exact enlists.harmless key watcher wasEnlisted
    · exact isHarmless
  · intro key watcher isEnlisted
    rcases mem_enlist isEnlisted with wasEnlisted | ⟨reaction, rfl, connected, rfl⟩
    · exact Nat.lt_of_lt_of_le (enlists.numbered key watcher wasEnlisted)
        (nextWatcher_step enlists.harmless move)
    · rw [Exchange.step, (watchers_watch connected key reaction).2]
      exact Nat.lt_succ_self _
  · exact fun key => nodup_enlist (enlists.numbered key) (enlists.distinct key) key move
  · intro connected key
    rcases stage with isAlive | isOver
    · have wasConnected : exchange.isConnected = true := by
        rw [isConnected, isAlive.state]
        rfl
      obtain ⟨news, isAsked, asks⟩ := asks_step wasConnected enlists.tidy enlists.harmless move key
      rw [registered, enlists.registered] at asks
      rw [isAsked]
      exact asks.getLast?_eq (enlists.wire wasConnected key)
    · rw [(isOver.step move).1.isConnected_eq] at connected
      cases connected

theorem Enlists.run (enlists : exchange.Enlists watchers)
    (stage : exchange.IsAlive address ∨ exchange.IsOver address) {moves : List Move}
    (areHarmless : ∀ move ∈ moves, move.IsHarmless) :
    (exchange.run moves).Enlists fun key => exchange.enlisted key (watchers key) moves := by
  induction moves generalizing exchange watchers with
  | nil => exact enlists
  | cons move later inductionHypothesis =>
      obtain ⟨isHarmless, areHarmlessLater⟩ := List.forall_mem_cons.mp areHarmless
      exact inductionHypothesis (enlists.step stage move isHarmless) (stage_step stage move)
        areHarmlessLater

/-- The watcher of the handle is gone, and no other will have its number. -/
structure Misses (exchange : Exchange) (handle : WatcherHandle) : Prop where
  isAbsent : ∀ watcher ∈ exchange.watchers.watchersOf handle.key, watcher.id ≠ handle.id
  isOld : handle.id < exchange.nextWatcher

theorem Misses.step {handle : WatcherHandle} (misses : exchange.Misses handle)
    (enlists : exchange.Enlists watchers) (move : Move) : (exchange.step move).Misses handle := by
  constructor
  · intro watcher isRegistered
    rw [watchersOf_step enlists.tidy enlists.harmless] at isRegistered
    rcases mem_enlist isRegistered with wasRegistered | ⟨_, _, _, rfl⟩
    · exact misses.isAbsent watcher wasRegistered
    · exact (Nat.ne_of_lt misses.isOld).symm
  · exact Nat.lt_of_lt_of_le misses.isOld (nextWatcher_step enlists.harmless move)

theorem Misses.run {handle : WatcherHandle} (misses : exchange.Misses handle)
    (enlists : exchange.Enlists watchers)
    (stage : exchange.IsAlive address ∨ exchange.IsOver address) {moves : List Move}
    (areHarmless : ∀ move ∈ moves, move.IsHarmless) : (exchange.run moves).Misses handle := by
  induction moves generalizing exchange watchers with
  | nil => exact misses
  | cons move later inductionHypothesis =>
      obtain ⟨isHarmless, areHarmlessLater⟩ := List.forall_mem_cons.mp areHarmless
      exact inductionHypothesis (misses.step enlists move) (enlists.step stage move isHarmless)
        (stage_step stage move) areHarmlessLater

theorem enlists_established (address : String) (timeout : Duration) (unread : Bytes) :
    (established address timeout unread).Enlists fun _ => [] where
  registered _ := rfl
  tidy := WatcherRegistry.isTidy_nil
  harmless _ := nofun
  numbered _ := nofun
  distinct _ := List.nodup_nil
  wire _ key := by simp [asked, established, connecting]

/-- Nobody watches a connection that was just made. -/
theorem enlists_of_connect {options : ConnectOptions} {stream : Bytes} {early : List ReaderTurn}
    {start : Exchange} (connects : (connect address options stream early).result = .ok start) :
    (start.Enlists fun _ => []) ∧ (start.IsAlive address ∨ start.IsOver address) := by
  obtain ⟨unread, rfl⟩ := connect_eq connects
  exact ⟨enlists_established address options.timeout unread, .inl ⟨rfl, rfl, rfl⟩⟩

end Exchange
end FailoverPool
