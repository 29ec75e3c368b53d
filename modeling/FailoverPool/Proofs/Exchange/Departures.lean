import FailoverPool.Proofs.Exchange.Subscriptions
import Mathlib.Data.List.Induction

/-!
Watchers that leave while an event is told.

A callback may unregister any watchers, its own among them. The server hears of each key that loses
its last watcher in this way, but once the event has been told to all it is asked for the next one
of the event's own key, whether anybody is left to watch that key or not. A key that is left behind
like this is orphaned: the server goes on to be asked for events that nobody watches. Main
statement: `acknowledges_of_connect`.
-/

namespace FailoverPool
namespace Exchange

variable {exchange before after : Exchange} {key : String} {value : Option Value}

/-- The watchers that are told an event of a key unregister these. -/
def leaving (exchange : Exchange) (key : String) : List WatcherHandle :=
  (exchange.watchers.watchersOf key).flatMap (·.reaction.unregisters)

/-- Watchers were unregistered, and the server was told of each key that has lost its last one. -/
structure Sheds (before : Exchange) (handles : List WatcherHandle) (after : Exchange) : Prop where
  state : after.state = before.state
  tidy : after.watchers.IsTidy
  watchersOf : ∀ key, after.watchers.watchersOf key =
    (before.watchers.watchersOf key).filter fun watcher => ⟨watcher.id, key⟩ ∉ handles
  asked : ∀ key, after.asked key = before.asked key ++
    if before.watchers.watchersOf key ≠ [] ∧ after.watchers.watchersOf key = [] then [false] else []

theorem state_unregister (exchange : Exchange) (handle : WatcherHandle) :
    (exchange.unregister handle).state = exchange.state :=
  (exchange.tells_unregister handle).state

namespace Sheds

theorem nil (tidy : exchange.watchers.IsTidy) : exchange.Sheds [] exchange where
  state := rfl
  tidy := tidy
  watchersOf key := by simp
  asked key := by simp

/-- A key loses its last watcher once at most, as none are registered in between. -/
theorem append {first second third : Exchange} {handles others : List WatcherHandle}
    (earlier : first.Sheds handles second) (later : second.Sheds others third) :
    first.Sheds (handles ++ others) third where
  state := later.state.trans earlier.state
  tidy := later.tidy
  watchersOf key := by
    rw [later.watchersOf, earlier.watchersOf, List.filter_filter]
    simp [not_or, Bool.and_comm]
  asked key := by
    have isPart := later.watchersOf key
    have wasPart := earlier.watchersOf key
    rw [later.asked, earlier.asked, List.append_assoc]
    congr 1
    by_cases wasWatched : first.watchers.watchersOf key = []
    · have isUnwatched : second.watchers.watchersOf key = [] := by rw [wasPart, wasWatched]; rfl
      simp [wasWatched, isUnwatched]
    · by_cases isWatched : second.watchers.watchersOf key = []
      · have isStillUnwatched : third.watchers.watchersOf key = [] := by rw [isPart, isWatched]; rfl
        simp [wasWatched, isWatched, isStillUnwatched]
      · simp [wasWatched, isWatched]

end Sheds

theorem sheds_unregister (connected : exchange.isConnected = true)
    (tidy : exchange.watchers.IsTidy) (handle : WatcherHandle) :
    exchange.Sheds [handle] (exchange.unregister handle) := by
  have isRemoved := (exchange.watchers_unregister handle).1
  refine ⟨exchange.state_unregister handle, ?_, fun key => ?_, fun key => ?_⟩
  · rw [isRemoved]
    exact tidy.remove handle
  · obtain ⟨id, other⟩ := handle
    rw [isRemoved, WatcherRegistry.watchersOf_remove tidy]
    by_cases isKey : other = key
    · simp [isKey]
    · simp [isKey, Ne.symm isKey]
  · rw [isRemoved]
    exact asked_unregister connected tidy handle key

theorem isConnected_of_state_eq (sameState : after.state = before.state)
    (connected : before.isConnected = true) : after.isConnected = true := by
  rw [isConnected, sameState]
  exact connected

theorem sheds_foldl_unregister (handles : List WatcherHandle)
    (connected : exchange.isConnected = true) (tidy : exchange.watchers.IsTidy) :
    exchange.Sheds handles (handles.foldl unregister exchange) := by
  induction handles generalizing exchange with
  | nil => exact .nil tidy
  | cons handle later inductionHypothesis =>
      have sheds := sheds_unregister connected tidy handle
      exact sheds.append
        (inductionHypothesis (isConnected_of_state_eq sheds.state connected) sheds.tidy)

theorem sheds_runCallback (connected : exchange.isConnected = true)
    (tidy : exchange.watchers.IsTidy) (key : String) (value : Option Value) (watcher : Watcher) :
    exchange.Sheds watcher.reaction.unregisters (exchange.runCallback key value watcher) := by
  have noted := @sheds_foldl_unregister
    { exchange with calls := exchange.calls ++ [watcher.call key value] }
    watcher.reaction.unregisters connected tidy
  rw [runCallback_eq]
  exact ⟨noted.state, noted.tidy, noted.watchersOf, noted.asked⟩

/-- All callbacks run, in turn, whoever is unregistered meanwhile. -/
theorem sheds_foldl_runCallback (watchers : List Watcher) (connected : exchange.isConnected = true)
    (tidy : exchange.watchers.IsTidy) (key : String) (value : Option Value) :
    exchange.Sheds (watchers.flatMap (·.reaction.unregisters))
      (watchers.foldl (fun exchange watcher => exchange.runCallback key value watcher)
        exchange) := by
  induction watchers generalizing exchange with
  | nil => exact .nil tidy
  | cons watcher later inductionHypothesis =>
      have sheds := sheds_runCallback connected tidy key value watcher
      rw [List.flatMap_cons]
      exact sheds.append
        (inductionHypothesis (isConnected_of_state_eq sheds.state connected) sheds.tidy)

/-- An event of a key has been told to all its watchers. -/
structure Handles (before : Exchange) (key : String) (value : Option Value)
    (after : Exchange) : Prop where
  state : after.state = before.state
  tidy : after.watchers.IsTidy
  calls : after.calls =
    before.calls ++ (before.watchers.watchersOf key).map (·.call key value)
  watchersOf : ∀ other, after.watchers.watchersOf other =
    (before.watchers.watchersOf other).filter fun watcher =>
      ⟨watcher.id, other⟩ ∉ before.leaving key
  /-- The server is told of a key that has lost its last watcher, and then it is asked for the next
  event of the event's key if that was watched before. -/
  asked : ∀ other, after.asked other = before.asked other ++
    (if before.watchers.watchersOf other ≠ [] ∧ after.watchers.watchersOf other = [] then [false]
      else []) ++
    if other = key ∧ before.watchers.watchersOf key ≠ [] then [true] else []

theorem handles_handleEvent (connected : exchange.isConnected = true)
    (tidy : exchange.watchers.IsTidy) (key : String) (value : Option Value) (unread : Bytes) :
    exchange.Handles key value ({ exchange with unread }.handleEvent key value) := by
  have sameWatchers : ({ exchange with unread } : Exchange).watchers.watchersOf key =
      exchange.watchers.watchersOf key := rfl
  unfold handleEvent
  rw [sameWatchers]
  split
  · next isUnwatched =>
    refine ⟨rfl, tidy, by simp [isUnwatched], fun other => ?_, fun other => ?_⟩
    · simp [leaving, isUnwatched]
    · simp [isUnwatched, asked]
  · next isWatched =>
    have sheds := @sheds_foldl_runCallback { exchange with unread }
      (exchange.watchers.watchersOf key) connected tidy key value
    refine ⟨sheds.state, sheds.tidy, ?_, sheds.watchersOf, fun other => ?_⟩
    · exact calls_foldl_runCallback _ _ key value
    · have isOwn : other = key ∧ exchange.watchers.watchersOf key ≠ [] ↔ key = other :=
        ⟨fun own => own.1.symm, fun same => ⟨same.symm, isWatched⟩⟩
      rw [asked_sendWatch, sheds.asked, if_congr isOwn rfl rfl]
      rfl

/-- An event is handled in this way whenever it comes. -/
theorem handles_step (connected : exchange.isConnected = true) (tidy : exchange.watchers.IsTidy)
    (isIncoming : exchange.incoming = .event key value) :
    exchange.Handles key value (exchange.step .read) := by
  have reads := reads_readNext (isClosed_eq_of_isConnected connected)
  rw [isIncoming] at reads
  rw [step]
  generalize exchange.readNext = after at reads ⊢
  cases reads with
  | event _ _ unread => exact handles_handleEvent connected tidy key value unread

theorem Handles.watchersOf_of_unwatched (handles : before.Handles key value after) {other : String}
    (wasUnwatched : before.watchers.watchersOf other = []) :
    after.watchers.watchersOf other = [] := by
  rw [handles.watchersOf, wasUnwatched, List.filter_nil]

/-- An event of the key takes the last watchers of the key. -/
def Orphans (exchange : Exchange) (key : String) (move : Move) : Prop :=
  move = .read ∧ (∃ value, exchange.incoming = .event key value) ∧
    exchange.watchers.watchersOf key ≠ [] ∧ (exchange.step move).watchers.watchersOf key = []

/-- The key lost its last watcher while an event of its own was told, and has had none since. -/
inductive IsOrphaned (start : Exchange) (key : String) : List Move → Prop where
  | event {moves : List Move} {move : Move} : (start.run moves).Orphans key move →
      IsOrphaned start key (moves ++ [move])
  | since {moves : List Move} {move : Move} : IsOrphaned start key moves →
      (start.run (moves ++ [move])).watchers.watchersOf key = [] →
      IsOrphaned start key (moves ++ [move])

theorem run_concat (start : Exchange) (moves : List Move) (move : Move) :
    start.run (moves ++ [move]) = (start.run moves).step move :=
  start.run_append moves [move]

theorem not_isOrphaned_nil (start : Exchange) (key : String) : ¬ start.IsOrphaned key [] := by
  generalize isNil : ([] : List Move) = moves
  rintro (_ | _) <;> simp at isNil

theorem isOrphaned_concat {start : Exchange} {moves : List Move} {move : Move} :
    start.IsOrphaned key (moves ++ [move]) ↔ (start.run moves).Orphans key move ∨
      start.IsOrphaned key moves ∧ ((start.run moves).step move).watchers.watchersOf key = [] := by
  rw [← run_concat]
  constructor
  · generalize isWhole : moves ++ [move] = whole
    intro isOrphaned
    cases isOrphaned with
    | event orphans =>
        obtain ⟨rfl, isMove⟩ := List.append_inj' isWhole rfl
        cases isMove
        exact .inl orphans
    | since wasOrphaned isUnwatched =>
        obtain ⟨rfl, isMove⟩ := List.append_inj' isWhole rfl
        exact .inr ⟨wasOrphaned, isUnwatched⟩
  · rintro (orphans | ⟨wasOrphaned, isUnwatched⟩)
    · exact .event orphans
    · exact .since wasOrphaned isUnwatched

/-- An orphaned key has no watchers. -/
theorem IsOrphaned.watchersOf_eq {start : Exchange} {moves : List Move}
    (isOrphaned : start.IsOrphaned key moves) :
    (start.run moves).watchers.watchersOf key = [] := by
  cases isOrphaned with
  | event orphans =>
      rw [run_concat]
      exact orphans.2.2.2
  | since _ isUnwatched => exact isUnwatched

theorem isConnected_of_step {address : String} {move : Move}
    (stage : exchange.IsAlive address ∨ exchange.IsOver address)
    (connected : (exchange.step move).isConnected = true) : exchange.isConnected = true := by
  rcases stage with isAlive | isOver
  · rw [isConnected, isAlive.state]
    rfl
  · rw [(isOver.step move).1.isConnected_eq] at connected
    cases connected

theorem tidy_step (connected : exchange.isConnected = true) (tidy : exchange.watchers.IsTidy)
    (move : Move) : (exchange.step move).watchers.IsTidy := by
  by_cases concerns : exchange.ConcernsWatchers move
  · cases move with
    | watch key reaction =>
        rw [step, (watchers_watch connected key reaction).1]
        exact tidy.add key _
    | unregister handle =>
        rw [step, (exchange.watchers_unregister handle).1]
        exact tidy.remove handle
    | read =>
        obtain ⟨key, value, isIncoming⟩ := concerns
        exact (handles_step connected tidy isIncoming).tidy
    | _ => exact concerns.elim
  · rw [(sparesWatchers_step concerns).watchers]
    exact tidy

/-- An event asks for what the watchers of a key need, unless it orphans the key. -/
theorem Handles.asks_or_orphans {other : String}
    (handles : exchange.Handles other value (exchange.step .read))
    (isIncoming : exchange.incoming = .event other value) (key : String) :
    (exchange.Orphans key .read ∧ (exchange.step .read).asked key =
      exchange.asked key ++ [false, true]) ∨
    (¬ exchange.Orphans key .read ∧ ∃ news, (exchange.step .read).asked key =
      exchange.asked key ++ news ∧ Asks (exchange.watchers.watchersOf key)
        ((exchange.step .read).watchers.watchersOf key) news) := by
  have isAsked := handles.asked key
  by_cases wasWatched : exchange.watchers.watchersOf key = []
  · have isUnwatched := handles.watchersOf_of_unwatched wasWatched
    refine .inr ⟨fun orphans => orphans.2.2.1 wasWatched, [], ?_, .nothing (by simp [*])⟩
    rw [isAsked, if_neg (fun lost => lost.1 wasWatched), if_neg, List.append_nil]
    rintro ⟨rfl, isWatched⟩
    exact isWatched wasWatched
  by_cases isUnwatched : (exchange.step .read).watchers.watchersOf key = []
  · rw [if_pos ⟨wasWatched, isUnwatched⟩, List.append_assoc] at isAsked
    by_cases isOwn : key = other
    · subst isOwn
      rw [if_pos ⟨rfl, wasWatched⟩] at isAsked
      exact .inl ⟨⟨rfl, ⟨value, isIncoming⟩, wasWatched, isUnwatched⟩, isAsked⟩
    · rw [if_neg (fun own => isOwn own.1)] at isAsked
      refine .inr ⟨?_, [false], isAsked, .noMore wasWatched isUnwatched⟩
      rintro ⟨_, ⟨_, isSame⟩, _⟩
      rw [isIncoming] at isSame
      exact isOwn (Incoming.event.inj isSame).1.symm
  · rw [if_neg (fun lost => isUnwatched lost.2), List.append_nil] at isAsked
    refine .inr ⟨fun orphans => isUnwatched orphans.2.2.2, _, isAsked, ?_⟩
    split
    · exact .more isUnwatched
    · exact .nothing (iff_of_false wasWatched isUnwatched)

/-- What is asked for a key is what its watchers need, unless the key is orphaned. -/
theorem asks_or_orphans (connected : exchange.isConnected = true)
    (tidy : exchange.watchers.IsTidy) (move : Move) (key : String) :
    (exchange.Orphans key move ∧ (exchange.step move).asked key =
      exchange.asked key ++ [false, true]) ∨
    (¬ exchange.Orphans key move ∧ ∃ news, (exchange.step move).asked key =
      exchange.asked key ++ news ∧ Asks (exchange.watchers.watchersOf key)
        ((exchange.step move).watchers.watchersOf key) news) := by
  by_cases isQuiet : move = .read → ∀ key value, exchange.incoming ≠ .event key value
  · refine .inr ⟨?_, asks_of_isQuiet connected tidy isQuiet key⟩
    rintro ⟨isRead, ⟨value, isIncoming⟩, _⟩
    exact isQuiet isRead key value isIncoming
  · obtain ⟨rfl, other, value, isIncoming⟩ :
        move = .read ∧ ∃ key value, exchange.incoming = .event key value := by
      simpa using isQuiet
    exact (handles_step connected tidy isIncoming).asks_or_orphans isIncoming key

/-- The registry is tidy, and the server was last asked for events of the keys that are watched or
orphaned, and of no others. -/
structure Owes (start : Exchange) (moves : List Move) : Prop where
  tidy : (start.run moves).watchers.IsTidy
  wire : ∀ key, ((start.run moves).asked key).getLast? = some true ↔
    (start.run moves).watchers.watchersOf key ≠ [] ∨ start.IsOrphaned key moves

theorem Owes.concat {start : Exchange} {moves : List Move} (owes : start.Owes moves)
    (connected : (start.run moves).isConnected = true) (move : Move) :
    start.Owes (moves ++ [move]) := by
  refine ⟨run_concat start moves move ▸ tidy_step connected owes.tidy move, fun key => ?_⟩
  rw [isOrphaned_concat, run_concat]
  rcases asks_or_orphans connected owes.tidy move key with
    ⟨orphans, isAsked⟩ | ⟨isSpared, news, isAsked, asks⟩
  · rw [isAsked]
    simp [orphans]
  · rw [isAsked]
    have wasUnwatched (isOrphaned : start.IsOrphaned key moves) := isOrphaned.watchersOf_eq
    cases asks with
    | nothing same =>
        rw [List.append_nil, owes.wire key]
        by_cases isUnwatched : ((start.run moves).step move).watchers.watchersOf key = []
        · simp [isUnwatched, same.mpr isUnwatched, isSpared]
        · simp [isUnwatched, mt same.mp isUnwatched]
    | more isWatched => simp [isWatched]
    | noMore wasWatched isUnwatched => simp [isUnwatched, isSpared, mt wasUnwatched wasWatched]

variable {start : Exchange} {address : String} {moves : List Move}

theorem owes_of_run (nothingYet : start.Enlists fun _ => [])
    (stage : start.IsAlive address ∨ start.IsOver address)
    (connected : (start.run moves).isConnected = true) : start.Owes moves := by
  induction moves using List.reverseRecOn with
  | nil =>
      have isStart : start.run [] = start := rfl
      refine ⟨nothingYet.tidy, fun key => ?_⟩
      rw [isStart, nothingYet.registered]
      simpa [not_isOrphaned_nil] using nothingYet.wire connected key
  | append_singleton earlier move inductionHypothesis =>
      rw [run_concat] at connected
      have wasConnected := isConnected_of_step (stage_run stage earlier) connected
      exact (inductionHypothesis wasConnected).concat wasConnected move

/-- What an event of a key does, whoever its callbacks unregister. -/
structure Acknowledges (before : Exchange) (key : String) (value : Option Value)
    (after : Exchange) : Prop extends before.Handles key value after where
  /-- A key that has watchers left was last asked for. -/
  watched : ∀ other, after.watchers.watchersOf other ≠ [] →
    (after.asked other).getLast? = some true
  /-- No more events were last asked for of another key that lost its last watcher. -/
  deserted : ∀ other, other ≠ key → before.watchers.watchersOf other ≠ [] →
    after.watchers.watchersOf other = [] → (after.asked other).getLast? = some false
  /-- If the event's own key lost its last watcher, the server was told so, and was then asked for
  the next event all the same. -/
  orphaned : before.watchers.watchersOf key ≠ [] → after.watchers.watchersOf key = [] →
    after.asked key = before.asked key ++ [false, true]
  /-- Keys that nobody watches are left alone. -/
  silent : ∀ other, before.watchers.watchersOf other = [] →
    after.watchers.watchersOf other = [] ∧ after.asked other = before.asked other

theorem Handles.acknowledges (handles : before.Handles key value after)
    (wire : ∀ other, after.watchers.watchersOf other ≠ [] →
      (after.asked other).getLast? = some true) : before.Acknowledges key value after where
  toHandles := handles
  watched := wire
  deserted other isOther wasWatched isUnwatched := by
    rw [handles.asked, if_pos ⟨wasWatched, isUnwatched⟩, if_neg (fun own => isOther own.1)]
    simp
  orphaned wasWatched isUnwatched := by
    rw [handles.asked, if_pos ⟨wasWatched, isUnwatched⟩, if_pos ⟨rfl, wasWatched⟩,
      List.append_assoc]
    rfl
  silent other wasUnwatched := by
    refine ⟨handles.watchersOf_of_unwatched wasUnwatched, ?_⟩
    have isNotOwn : ¬ (other = key ∧ before.watchers.watchersOf key ≠ []) := by
      rintro ⟨rfl, wasWatched⟩
      exact wasWatched wasUnwatched
    rw [handles.asked, if_neg (fun lost => lost.1 wasUnwatched), if_neg isNotOwn, List.append_nil,
      List.append_nil]

/-- On every connection that was made, whatever is done with it and whoever the callbacks
unregister, an event is told to all watchers that its key has at this moment, and afterwards the
server has last been asked for the events of the keys that are watched, and of those that are
orphaned, and of no others. -/
theorem acknowledges_of_connect {options : ConnectOptions} {stream : Bytes}
    {early : List ReaderTurn}
    (connects : (connect address options stream early).result = .ok start)
    (connected : (start.run moves).isConnected = true)
    (isIncoming : (start.run moves).incoming = .event key value) :
    (start.run moves).Acknowledges key value (start.run (moves ++ [.read])) ∧
      start.Owes (moves ++ [.read]) := by
  obtain ⟨nothingYet, stage⟩ := enlists_of_connect connects
  have owes := owes_of_run nothingYet stage connected
  have owesAfter := owes.concat connected .read
  refine ⟨?_, owesAfter⟩
  have handles := handles_step connected owes.tidy isIncoming
  rw [← run_concat] at handles
  exact handles.acknowledges fun other isWatched => (owesAfter.wire other).mpr (.inl isWatched)

/-- An event of a key with two watchers, the first of which unregisters itself and the only watcher
of another key. -/
theorem acknowledges_of_two_watchers :
    ∃ start moves,
      (connect "a" .default (Utf8.encode "Tarantool" ++ List.replicate 119 0x20)
        [.read]).result = .ok start ∧
      moves = [.watch "k" ⟨[⟨1, "k"⟩, ⟨3, "l"⟩], false⟩, .watch "k" ⟨[], true⟩,
        .watch "l" ⟨[], false⟩, .arrive (Frame.encode .event 0 0 (Frame.watchBody "k"))] ∧
      (start.run moves).isConnected = true ∧
      (∃ value, (start.run moves).incoming = .event "k" value ∧
        (start.run moves).Acknowledges "k" value (start.run (moves ++ [.read]))) ∧
      start.Owes (moves ++ [.read]) ∧
      (start.run (moves ++ [.read])).calls.map WatcherCall.watcher = [1, 2] ∧
      (start.run (moves ++ [.read])).asked "k" = [true, true] ∧
      (start.run (moves ++ [.read])).asked "l" = [true, false] := by
  let moves : List Move := [.watch "k" ⟨[⟨1, "k"⟩, ⟨3, "l"⟩], false⟩, .watch "k" ⟨[], true⟩,
    .watch "l" ⟨[], false⟩, .arrive (Frame.encode .event 0 0 (Frame.watchBody "k"))]
  have connects :
      (connect "a" .default (Utf8.encode "Tarantool" ++ List.replicate 119 0x20)
        [.read]).result.toOption.map
        (fun start => ((start.run moves).isConnected,
          (match (start.run moves).incoming with
            | .event key _ => some key
            | _ => none),
          (start.run (moves ++ [.read])).calls.map WatcherCall.watcher,
          (start.run (moves ++ [.read])).asked "k", (start.run (moves ++ [.read])).asked "l")) =
        some (true, some "k", [1, 2], [true, true], [true, false]) := by
    decide +kernel
  obtain ⟨start, isStart, isRun⟩ := exists_ok_of_map_toOption connects
  simp only [Prod.mk.injEq] at isRun
  obtain ⟨connected, isEvent, called, askedOwn, askedOther⟩ := isRun
  obtain ⟨value, isIncoming⟩ : ∃ value, (start.run moves).incoming = .event "k" value := by
    split at isEvent
    · next key value isIncoming =>
      cases isEvent
      exact ⟨value, isIncoming⟩
    · cases isEvent
  obtain ⟨acknowledges, owes⟩ := acknowledges_of_connect isStart connected isIncoming
  exact ⟨start, moves, isStart, rfl, connected, ⟨value, isIncoming, acknowledges⟩, owes, called,
    askedOwn, askedOther⟩

/-- The last watcher of a key unregisters itself when it is told an event: nobody watches the key
any more, the connection is as good as before, and the server was last asked for the next event. -/
theorem asked_of_last_watcher :
    ∃ start moves,
      (connect "a" .default (Utf8.encode "Tarantool" ++ List.replicate 119 0x20)
        [.read]).result = .ok start ∧
      moves = [.watch "k" ⟨[⟨1, "k"⟩], false⟩,
        .arrive (Frame.encode .event 0 0 (Frame.watchBody "k")), .read] ∧
      (start.run moves).isConnected = true ∧
      (start.run moves).calls.map WatcherCall.watcher = [1] ∧
      (start.run moves).watchers.watchersOf "k" = [] ∧
      (start.run moves).asked "k" = [true, false, true] := by
  let moves : List Move := [.watch "k" ⟨[⟨1, "k"⟩], false⟩,
    .arrive (Frame.encode .event 0 0 (Frame.watchBody "k")), .read]
  have connects :
      (connect "a" .default (Utf8.encode "Tarantool" ++ List.replicate 119 0x20)
        [.read]).result.toOption.map
        (fun start => ((start.run moves).isConnected,
          (start.run moves).calls.map WatcherCall.watcher,
          (start.run moves).watchers.isUnwatched "k", (start.run moves).asked "k")) =
        some (true, [1], true, [true, false, true]) := by
    decide +kernel
  obtain ⟨start, isStart, isRun⟩ := exists_ok_of_map_toOption connects
  simp only [Prod.mk.injEq] at isRun
  obtain ⟨connected, called, isUnwatched, isAsked⟩ := isRun
  exact ⟨start, moves, isStart, rfl, connected, called, List.isEmpty_iff.mp isUnwatched, isAsked⟩

end Exchange
end FailoverPool
