import FailoverPool.Proofs.Exchange.Effects
import FailoverPool.Proofs.Protocol.Responses
import FailoverPool.Proofs.Protocol.Splitting
import Mathlib.Data.List.Induction

/-!
What the reader of a connection hears, byte for byte.

Where the bytes of a stream are cut, and what the payload of a frame says, is a matter of the bytes
alone (`Meets`). At each turn the reader takes in the next whole frame, does what the frame calls
for (`Takes`), and leaves everything behind it. So whatever else happens between its turns, it hears
what the stream says from its first byte on (`passes_run`).
-/

namespace FailoverPool

/-- The frame is pushed by the server and answers nothing. The first entry under the key of the code
tells. -/
def IsPush (header : Value) : Prop :=
  ∃ earlier later, header = .map (earlier ++ (.ofUInt64 0x00, .ofUInt64 76) :: later) ∧
    ∀ entry ∈ earlier, entry.1 ≠ .ofUInt64 0x00

/-- What stands under a key last. -/
def Fields.last? (fields : Fields) (key : UInt64) : Option Value :=
  (fields.filter (·.1 = key)).getLast?.map Prod.snd

/-- The body tells of an event, and of the value that comes with it if there is one. -/
def Announces (body : Option Value) (key : String) (value : Option Value) : Prop :=
  ∃ fields : Fields, body = some fields.toValue ∧ fields.last? 0x57 = some (.text key) ∧
    fields.last? 0x58 = value

theorem Fields.last?_concat (fields : Fields) (field : UInt64 × Value) (key : UInt64) :
    last? (fields ++ [field]) key = if field.1 = key then some field.2 else fields.last? key := by
  by_cases isKey : field.1 = key <;> simp [last?, isKey]

theorem Value.lookup?_eq_some_iff {key : UInt64} {entries : List (Value × Value)} {value : Value} :
    lookup? key entries = some value ↔ ∃ earlier later,
      entries = earlier ++ (.ofUInt64 key, value) :: later ∧
        ∀ entry ∈ earlier, entry.1 ≠ .ofUInt64 key := by
  have isKey (found : Value) : (found.toUInt64? == some key) = true ↔ found = .ofUInt64 key := by
    rw [beq_iff_eq, toUInt64?_eq_some_iff]
  have isOther (found : Value) : (!(found.toUInt64? == some key)) = true ↔
      found ≠ .ofUInt64 key := by
    rw [Bool.not_eq_true', ← Bool.not_eq_true, isKey]
  simp only [lookup?, Option.map_eq_some_iff, List.find?_eq_some_iff_append, isKey, isOther]
  constructor
  · rintro ⟨⟨_, _⟩, ⟨rfl, isFound⟩, rfl⟩
    exact isFound
  · intro isFound
    exact ⟨_, ⟨rfl, isFound⟩, rfl⟩

namespace Exchange

theorem codeOf_eq_some_iff {header : Value} :
    codeOf header = some FrameCode.event.number ↔ IsPush header := by
  simp only [codeOf, Option.bind_eq_bind, Option.bind_eq_some_iff, Value.map?_eq_some_iff,
    Value.toUInt64?_eq_some_iff, Value.lookup?_eq_some_iff]
  constructor
  · rintro ⟨_, rfl, _, ⟨earlier, later, rfl, areOthers⟩, rfl⟩
    exact ⟨earlier, later, rfl, areOthers⟩
  · rintro ⟨earlier, later, rfl, areOthers⟩
    exact ⟨_, rfl, _, ⟨earlier, later, rfl, areOthers⟩, rfl⟩

/-- The key and the value, as far as some fields of an event tell. -/
def tidings (fields : Fields) : Option String × Option Value :=
  fields.foldl (fun (key, value) (field : UInt64 × Value) =>
    if field.1 = Key.eventKey then (field.2.text?, value)
    else if field.1 = Key.eventData then (key, some field.2)
    else (key, value)) (none, none)

theorem tidings_eq (fields : Fields) :
    tidings fields = ((fields.last? 0x57).bind Value.text?, fields.last? 0x58) := by
  induction fields using List.reverseRecOn with
  | nil => rfl
  | append_singleton earlier field inductionHypothesis =>
      rw [tidings, List.foldl_append, ← tidings, inductionHypothesis, Fields.last?_concat,
        Fields.last?_concat]
      by_cases isKey : field.1 = 0x57
      · simp [isKey, Key.eventKey]
      · by_cases isData : field.1 = 0x58 <;> simp [isKey, isData, Key.eventKey, Key.eventData]

theorem eventOf_some_eq (body : Value) : eventOf (some body) =
    Response.expectFields body >>= fun fields =>
      match (tidings fields).1 with
      | some key => .ok (key, (tidings fields).2)
      | none => .error (.protocol .eventWithoutKey) := by
  unfold eventOf
  dsimp only
  congr 1

theorem eventOf_eq_ok_iff {body : Option Value} {key : String} {value : Option Value} :
    eventOf body = .ok (key, value) ↔ Announces body key value := by
  have isTold (fields : Fields) : tidings fields = (some key, value) ↔
      fields.last? 0x57 = some (.text key) ∧ fields.last? 0x58 = value := by
    simp [tidings_eq, Option.bind_eq_some_iff, Value.text?_eq_some_iff]
  cases body with
  | none =>
      constructor
      · nofun
      · rintro ⟨_, ⟨⟩, _⟩
  | some body =>
      rw [eventOf_some_eq, bind_eq_ok_iff]
      simp only [Response.expectFields_eq_ok_iff]
      constructor
      · rintro ⟨fields, rfl, isEvent⟩
        refine ⟨fields, rfl, (isTold fields).mp ?_⟩
        split at isEvent <;> cases isEvent
        exact Prod.ext ‹_› rfl
      · rintro ⟨fields, ⟨⟩, isSaid⟩
        refine ⟨fields, rfl, ?_⟩
        rw [(isTold fields).mpr isSaid]

/-- What a payload says to the reader of a connection: what is pushed is an event, and all else is a
response. What says neither is a breach of the protocol. -/
inductive Says (payload : Bytes) : Incoming → Prop where
  | event {frame : Frame} {key : String} {value : Option Value} : Frame.Fills payload frame →
      IsPush frame.header → Announces frame.body key value → Says payload (.event key value)
  | response {frame : Frame} {response : Response} : Frame.Fills payload frame →
      ¬ IsPush frame.header → Response.ofFrame frame = .ok response →
      Says payload (.response response)
  | illegible (error : Error) : (¬ ∃ frame, Frame.Fills payload frame) →
      Says payload (.breach error)
  | emptyEvent {frame : Frame} (error : Error) : Frame.Fills payload frame →
      IsPush frame.header → (¬ ∃ key value, Announces frame.body key value) →
      Says payload (.breach error)
  | noResponse {frame : Frame} (error : Error) : Frame.Fills payload frame →
      ¬ IsPush frame.header → (¬ ∃ response, Response.ofFrame frame = .ok response) →
      Says payload (.breach error)

/-- What a reader comes upon at the beginning of these bytes, and what it leaves behind that. -/
inductive Meets : Bytes → Incoming → Bytes → Prop where
  | frame {sizing payload : Bytes} {incoming : Incoming} (left : Bytes) :
      Spells payload.length sizing → payload.length ≤ 0xffffffff → Says payload incoming →
      Meets (sizing ++ (payload ++ left)) incoming left
  | refused {bytes : Bytes} (error : Error) : Frame.IsRefused bytes →
      Meets bytes (.breach error) bytes

/-- What a reader comes upon in these bytes, one thing after another, and what it leaves. -/
inductive Passes : Bytes → List Incoming → Bytes → Prop where
  | done (bytes : Bytes) : Passes bytes [] bytes
  | next {bytes rest left : Bytes} {incoming : Incoming} {later : List Incoming} :
      Meets bytes incoming rest → Passes rest later left → Passes bytes (incoming :: later) left

/-- An event has been told to all watchers of its key, in the order of their registration, and then
the server has been asked for the next one. If nobody watches the key, nothing has been done. -/
structure Hears (before : Exchange) (key : String) (value : Option Value) (left : Bytes)
    (after : Exchange) : Prop where
  tells : before.Tells after
  unread : after.unread = left
  calls : after.calls = before.calls ++ (before.watchers.watchersOf key).map (·.call key value)
  ignores : before.watchers.watchersOf key = [] → after = { before with unread := left }
  asks : before.watchers.watchersOf key ≠ [] →
    ∃ told sync, after.sent = before.sent ++ told ++ [.watch sync key]

/-- What has become of a connection whose reader came upon something and left these bytes. -/
inductive Takes (before : Exchange) (left : Bytes) : Incoming → Exchange → Prop where
  | event {key : String} {value : Option Value} {after : Exchange} :
      before.Hears key value left after → Takes before left (.event key value) after
  /-- The request with its number has its result, and is in flight no longer. -/
  | response {response : Response} : response.sync ∈ before.pending →
      Takes before left (.response response) { before with
        unread := left
        pending := before.pending.filter (· ≠ response.sync)
        futures := before.futures.map fun (sync, future) =>
          (sync, if sync = response.sync then future.send response.toResult else future) }
  /-- No request with its number is in flight. -/
  | stray {response : Response} : response.sync ∉ before.pending →
      Takes before left (.response response) { before with unread := left }
  /-- The connection has ended, and all that was in flight has failed. -/
  | breach (error : Error) : Takes before left (.breach error) { before with
      unread := left
      state := .closed
      events := before.events ++ [.closed]
      pending := []
      futures := before.futures.map fun (sync, future) =>
        (sync,
          if sync ∈ before.pending then future.send (.error (.connectionClosed before.address))
          else future) }

/-- What moves of the connection bring about, one after another. -/
def gathered {Item : Type} (exchange : Exchange) (look : Exchange → Move → List Item) :
    List Move → List Item
  | [] => []
  | move :: later => look exchange move ++ (exchange.step move).gathered look later

/-- The bytes that a move adds to those that are unread. -/
def arrived (exchange : Exchange) : Move → Bytes
  | .arrive bytes => if exchange.isClosed then [] else bytes
  | _ => []

/-- What the reader comes upon in a move. -/
def heard (exchange : Exchange) : Move → List Incoming
  | .read =>
      if exchange.isClosed then []
      else match exchange.incoming with
        | .nothing => []
        | incoming => [incoming]
  | _ => []

section Meeting

variable {bytes rest left payload : Bytes} {incoming : Incoming} {hears later : List Incoming}

theorem not_meets_nothing : ¬ Meets bytes .nothing left := by
  intro meets
  cases meets with
  | frame _ _ _ isSaid => cases isSaid

theorem Meets.append (meets : Meets bytes incoming left) (more : Bytes) :
    Meets (bytes ++ more) incoming (left ++ more) := by
  cases meets with
  | frame left spells isShort isSaid =>
      rw [List.append_assoc, List.append_assoc]
      exact .frame (left ++ more) spells isShort isSaid
  | refused error isRefused =>
      cases isRefused with
      | marker following isLarge isOther =>
          exact .refused error (.marker (following ++ more) isLarge isOther)
      | length following spells isLong =>
          rw [List.append_assoc]
          exact .refused error (.length (following ++ more) spells isLong)

theorem Passes.append (passes : Passes bytes hears left) (more : Bytes) :
    Passes (bytes ++ more) hears (left ++ more) := by
  induction passes with
  | done bytes => exact .done (bytes ++ more)
  | next meets _ inductionHypothesis => exact .next (meets.append more) inductionHypothesis

theorem Passes.trans (earlier : Passes bytes hears rest) (further : Passes rest later left) :
    Passes bytes (hears ++ later) left := by
  induction earlier with
  | done bytes => exact further
  | next meets _ inductionHypothesis => exact .next meets (inductionHypothesis further)

end Meeting

section Reading

variable {exchange after : Exchange} {incoming : Incoming} {left payload : Bytes}

theorem unread_foldl {Operation : Type} {apply : Exchange → Operation → Exchange}
    (keeps : ∀ exchange operation, (apply exchange operation).unread = exchange.unread)
    (operations : List Operation) (exchange : Exchange) :
    (operations.foldl apply exchange).unread = exchange.unread := by
  induction operations generalizing exchange with
  | nil => rfl
  | cons operation later inductionHypothesis =>
      rw [List.foldl_cons, inductionHypothesis, keeps]

theorem unread_unregister (exchange : Exchange) (handle : WatcherHandle) :
    (exchange.unregister handle).unread = exchange.unread := by
  unfold unregister
  dsimp only
  split <;> rfl

theorem unread_foldl_runCallback (watchers : List Watcher) (exchange : Exchange) (key : String)
    (value : Option Value) :
    (watchers.foldl (fun exchange watcher => exchange.runCallback key value watcher)
      exchange).unread = exchange.unread := by
  refine unread_foldl (fun exchange watcher => ?_) watchers exchange
  rw [runCallback_eq]
  exact unread_foldl unread_unregister watcher.reaction.unregisters _

theorem unread_teardown (exchange : Exchange) : exchange.teardown.unread = exchange.unread := by
  cases isClosed : exchange.isClosed with
  | true => rw [teardown, if_pos isClosed]
  | false => rw [teardown_eq isClosed]

theorem handleEvent_of_watched {key : String}
    (isWatched : exchange.watchers.watchersOf key ≠ []) (value : Option Value) :
    exchange.handleEvent key value = ((exchange.watchers.watchersOf key).foldl
      (fun exchange watcher => exchange.runCallback key value watcher) exchange).sendWatch key := by
  unfold handleEvent
  split
  · next isUnwatched => exact absurd isUnwatched isWatched
  · rfl

theorem exists_sent_sendWatch {before after : Exchange} (tells : before.Tells after)
    (key : String) :
    ∃ told sync, (after.sendWatch key).sent = before.sent ++ told ++ [.watch sync key] := by
  obtain ⟨told, isTold⟩ := tells.sent
  refine ⟨told, after.nextSync, ?_⟩
  rw [isTold]
  rfl

theorem hears_handleEvent (exchange : Exchange) (key : String) (value : Option Value)
    (left : Bytes) :
    exchange.Hears key value left ({ exchange with unread := left }.handleEvent key value) := by
  by_cases isWatched : exchange.watchers.watchersOf key = []
  · have ignored : { exchange with unread := left }.handleEvent key value =
        { exchange with unread := left } := by
      rw [handleEvent, isWatched]
    rw [ignored]
    exact ⟨exchange.tells_unread left, rfl, by simp [isWatched], fun _ => rfl, absurd isWatched⟩
  · rw [@handleEvent_of_watched { exchange with unread := left } key isWatched]
    have called := (exchange.tells_unread left).trans
      (tells_foldl (fun exchange watcher => exchange.tells_runCallback key value watcher) _
        (exchange.watchers.watchersOf key))
    refine ⟨called.trans (tells_sendWatch _ key), ?_, ?_, fun isNone => absurd isNone isWatched, ?_⟩
    · exact unread_foldl_runCallback _ _ key value
    · exact calls_foldl_runCallback _ _ key value
    · exact fun _ => exists_sent_sendWatch called key

theorem takes_teardown (isOpen : exchange.isClosed = false) (left : Bytes) (error : Error) :
    exchange.Takes left (.breach error) { exchange with unread := left }.teardown := by
  rw [@teardown_eq { exchange with unread := left } isOpen]
  exact .breach error

theorem takes_resolve (exchange : Exchange) (left : Bytes) (response : Response) :
    exchange.Takes left (.response response)
      ({ exchange with unread := left }.resolve response.sync response.toResult) := by
  by_cases isPending : response.sync ∈ exchange.pending
  · rw [@resolve_of_mem { exchange with unread := left } _ isPending]
    exact .response isPending
  · rw [@resolve_of_not_mem { exchange with unread := left } _ isPending]
    exact .stray isPending

/-- The connection does with a payload what the payload calls for. -/
theorem takes_receive (isOpen : exchange.isClosed = false) (isSaid : Says payload incoming)
    (left : Bytes) : exchange.Takes left incoming
      ({ exchange with unread := left }.receive (Frame.ofPayload payload)) := by
  cases isSaid with
  | @event frame key value fills isPush announces =>
      simp only [Frame.ofPayload_eq_ok_iff.mpr fills, receive, Except.bind, dispatch,
        codeOf_eq_some_iff.mpr isPush, if_true, eventOf_eq_ok_iff.mpr announces]
      exact .event (exchange.hears_handleEvent key value left)
  | @response frame response fills isAnswer isDecoded =>
      simp only [Frame.ofPayload_eq_ok_iff.mpr fills, receive, Except.bind, dispatch,
        if_neg (mt codeOf_eq_some_iff.mp isAnswer), isDecoded]
      exact exchange.takes_resolve left response
  | illegible error isIllegible =>
      cases isRead : Frame.ofPayload payload with
      | ok frame => exact absurd ⟨frame, Frame.ofPayload_eq_ok_iff.mp isRead⟩ isIllegible
      | error fault => exact takes_teardown isOpen left error
  | @emptyEvent frame error fills isPush isEmpty =>
      simp only [Frame.ofPayload_eq_ok_iff.mpr fills, receive, Except.bind, dispatch,
        codeOf_eq_some_iff.mpr isPush, if_true]
      cases isRead : eventOf frame.body with
      | ok event => exact absurd ⟨event.1, event.2, eventOf_eq_ok_iff.mp isRead⟩ isEmpty
      | error fault => exact takes_teardown isOpen left error
  | @noResponse frame error fills isAnswer isUndecoded =>
      simp only [Frame.ofPayload_eq_ok_iff.mpr fills, receive, Except.bind, dispatch,
        if_neg (mt codeOf_eq_some_iff.mp isAnswer)]
      cases isRead : Response.ofFrame frame with
      | ok response => exact absurd ⟨response, isRead⟩ isUndecoded
      | error fault => exact takes_teardown isOpen left error

/-- One turn of the reader: what it comes upon is taken in, and all behind it is left. -/
theorem takes_readNext (isOpen : exchange.isClosed = false)
    (meets : Meets exchange.unread incoming left) :
    exchange.Takes left incoming exchange.readNext := by
  rw [readNext, if_neg (by simp [isOpen])]
  generalize isUnread : exchange.unread = unread at meets
  cases meets with
  | frame left spells isShort isSaid =>
      rw [Frame.split_append spells isShort]
      exact takes_receive isOpen isSaid left
  | refused error isRefused =>
      obtain ⟨fault, rest, isComplete, isSplit⟩ := isRefused.split_eq
      simp only [isSplit, isComplete, Bool.false_eq_true, if_false]
      subst isUnread
      exact takes_teardown isOpen exchange.unread error

/-- A reader that finds no whole frame waits for more. -/
theorem readNext_of_isPartial (isPartial : Frame.IsPartial exchange.unread) :
    exchange.readNext = exchange := by
  obtain ⟨fault, isIncomplete, isSplit⟩ := isPartial.split_eq
  unfold readNext
  split
  · rfl
  · simp only [isSplit, isIncomplete, if_true]

theorem Takes.unread_eq (takes : exchange.Takes left incoming after) : after.unread = left := by
  cases takes with
  | event hears => exact hears.unread
  | response | stray | breach => rfl

theorem says_frame {frame : Frame} (fills : Frame.Fills payload frame) : Says payload
    (if codeOf frame.header = some FrameCode.event.number then
      match eventOf frame.body with
      | .ok (key, value) => .event key value
      | .error error => .breach error
    else
      match Response.ofFrame frame with
      | .ok response => .response response
      | .error error => .breach error) := by
  split
  · next isEvent =>
    have isPush := codeOf_eq_some_iff.mp isEvent
    cases isRead : eventOf frame.body with
    | ok event => exact .event fills isPush (eventOf_eq_ok_iff.mp isRead)
    | error error =>
        apply Says.emptyEvent error fills isPush
        rintro ⟨key, value, announces⟩
        rw [eventOf_eq_ok_iff.mpr announces] at isRead
        cases isRead
  · next isAnswer =>
    have isNoPush := mt codeOf_eq_some_iff.mpr isAnswer
    cases isRead : Response.ofFrame frame with
    | ok response => exact .response fills isNoPush isRead
    | error error =>
        apply Says.noResponse error fills isNoPush
        rintro ⟨response, isDecoded⟩
        rw [isDecoded] at isRead
        cases isRead

/-- Whatever is unread, the reader comes upon something, or waits for more. -/
theorem meets_or_isPartial (exchange : Exchange) :
    (∃ left, Meets exchange.unread exchange.incoming left) ∨
      exchange.incoming = .nothing ∧ Frame.IsPartial exchange.unread := by
  unfold incoming
  cases isSplit : Frame.split exchange.unread with
  | mk cut rest =>
      cases cut with
      | error fault =>
          obtain ⟨isIncomplete, isPartial⟩ | ⟨isComplete, isRefused⟩ :=
            Frame.isPartial_or_isRefused isSplit
          · exact .inr ⟨if_pos isIncomplete, isPartial⟩
          · refine .inl ⟨exchange.unread, ?_⟩
            simp only [isComplete, Bool.false_eq_true, if_false]
            exact .refused _ isRefused
      | ok payload =>
          obtain ⟨sizing, spells, isShort, isUnread⟩ := Frame.exists_of_split isSplit
          refine .inl ⟨rest, ?_⟩
          rw [isUnread]
          refine .frame rest spells isShort ?_
          dsimp only
          split
          · next error isRead =>
            apply Says.illegible error
            rintro ⟨frame, fills⟩
            rw [Frame.ofPayload_eq_ok_iff.mpr fills] at isRead
            cases isRead
          · next frame isRead => exact says_frame (Frame.ofPayload_eq_ok_iff.mp isRead)

end Reading

section Running

variable {exchange : Exchange}

theorem unread_send (exchange : Exchange) (now : Instant) (stream : UInt64) (request : Request) :
    (exchange.send now stream request).1.unread = exchange.unread := by
  unfold send
  split <;> rfl

theorem unread_watch (exchange : Exchange) (key : String) (reaction : Reaction) :
    (exchange.watch key reaction).1.unread = exchange.unread := by
  unfold watch
  split
  · dsimp only
    split <;> rfl
  · rfl

theorem passes_read (exchange : Exchange) :
    Passes exchange.unread (exchange.heard .read) (exchange.step .read).unread := by
  rw [heard, step]
  cases isClosed : exchange.isClosed with
  | true =>
      rw [readNext_of_isClosed isClosed]
      exact .done exchange.unread
  | false =>
      rw [if_neg Bool.false_ne_true]
      obtain ⟨left, meets⟩ | ⟨isNothing, isPartial⟩ := exchange.meets_or_isPartial
      · rw [(takes_readNext isClosed meets).unread_eq]
        split
        · next isNothing => exact absurd (isNothing ▸ meets) not_meets_nothing
        · exact .next meets (.done left)
      · rw [isNothing, readNext_of_isPartial isPartial]
        exact .done exchange.unread

/-- One move: what arrives is put behind what is unread, and the reader comes upon what stands in
front. -/
theorem passes_step (exchange : Exchange) (move : Move) :
    Passes (exchange.unread ++ exchange.arrived move) (exchange.heard move)
      (exchange.step move).unread := by
  have stays {after : Exchange} (same : after.unread = exchange.unread) :
      Passes (exchange.unread ++ []) [] after.unread := by
    rw [same, List.append_nil]
    exact .done exchange.unread
  cases move with
  | arrive bytes =>
      rw [arrived, step, arrive]
      split
      · exact stays rfl
      · exact .done (exchange.unread ++ bytes)
  | read =>
      have isAll : exchange.unread ++ exchange.arrived .read = exchange.unread := List.append_nil _
      rw [isAll]
      exact exchange.passes_read
  | send now stream request => exact stays (exchange.unread_send now stream request)
  | watch key reaction => exact stays (exchange.unread_watch key reaction)
  | unregister handle => exact stays (exchange.unread_unregister handle)
  | openStream | forget => exact stays rfl
  | poll now sync =>
      obtain ⟨pending, futures, isPoll, _⟩ := exchange.poll_fst now sync
      exact stays (by rw [step, isPoll])
  | endInput | fail => exact stays exchange.unread_teardown
  | close => exact stays (by rw [step, close_fst, unread_teardown])

/-- Whatever else is done, the reader hears what the stream says: what was unread at first, and what
arrived since. -/
theorem passes_run (exchange : Exchange) (moves : List Move) :
    Passes (exchange.unread ++ exchange.gathered arrived moves) (exchange.gathered heard moves)
      (exchange.run moves).unread := by
  induction moves generalizing exchange with
  | nil =>
      rw [gathered, List.append_nil]
      exact .done exchange.unread
  | cons move later inductionHypothesis =>
      rw [gathered, gathered, ← List.append_assoc]
      exact ((exchange.passes_step move).append _).trans (inductionHypothesis (exchange.step move))

end Running

end Exchange
end FailoverPool
