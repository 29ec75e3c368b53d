import FailoverPool.Proofs.Pool.Closing
import FailoverPool.Proofs.Pool.Deeds
import FailoverPool.Proofs.Pool.Discovery

/-!
A discovery call, from its beginning to its answer.

`Asks` follows a call while connections close, callers send requests and the clock goes on. What it
tells is handed to an update; whatever tells nothing leaves the pool as it was (`Ignores`). A call
tells nothing, too, whose first list of addresses is followed by anything but such lists. Main
statement: `learns_of_asks`.
-/

namespace FailoverPool

/-- A discovery call, with what the upkeep has done since it began. -/
inductive Asks (dialer : Dialer) (function : String) (before : Course) :
    Course → List Occurrence → Prop where
  | begins {after} :
      Step dialer before (.discovery function) after →
      Asks dialer function before after (after.run.network.since before.run.network)
  | meanwhile {between after move deeds id} :
      Asks dialer function before between deeds →
      between.run.duty = .ask id → Step dialer between move after → move.isUpkeep = false →
      Asks dialer function before after deeds

namespace PoolRun

/-- The connection that a discovery call would be sent through: the one that serves requests, unless
it has closed. -/
def asked? (run : PoolRun) : Option ConnectionId :=
  (run.pool.select run.network).2.filter fun id => !run.network.isClosed id

/-- Nothing was updated: no address, no entry and no connection has changed, and nothing was dialed
or closed. -/
structure Ignores (before after : PoolRun) : Prop where
  tracked : after.pool.tracked = before.pool.tracked
  entries : after.pool.entries = before.pool.entries
  connections : after.network.connections = before.network.connections
  deeds : after.network.since before.network = []
  /-- The upkeep goes on, unless the pool was closed or nobody holds it. -/
  duty : after.duty = if after.pool.isClosed || !after.pool.isHeld then .ended else .idle

/-- What becomes of a pool whose discovery call has this outcome. -/
structure Learns (before : PoolRun) (outcome : Outcome) (after : PoolRun) : Prop where
  updates : ∀ texts, Discovery.Tells outcome texts →
    ∃ discovered, Discovery.FirstOccurrences texts discovered ∧
      after = before.beginUpdate discovered
  ignores : (∀ texts, ¬ Discovery.Tells outcome texts) → before.Ignores after

variable {run : PoolRun}

theorem ignores_rest (run : PoolRun) (fallback : Option ConnectionId) :
    run.Ignores ({ run with pool := { run.pool with fallback } } : PoolRun).rest := by
  constructor
  · rw [pool_rest]
  · rw [pool_rest]
  · exact connections_rest _
  · exact (does_rest { run with pool := { run.pool with fallback } }).since_eq
  · rw [pool_rest, rest]
    split <;> rfl

theorem learns_finishDiscovery (run : PoolRun) (outcome : Outcome) :
    run.Learns outcome (run.finishDiscovery outcome) := by
  rw [finishDiscovery]
  constructor
  · intro texts told
    refine ⟨texts.eraseDups, Discovery.firstOccurrences_eraseDups texts, ?_⟩
    rw [Discovery.addresses?_eq_some_iff.mpr ⟨texts, told, rfl⟩]
  · intro isSilent
    have noAddresses : Discovery.addresses? outcome = none := by
      rw [Option.eq_none_iff_forall_ne_some]
      intro discovered tells
      obtain ⟨texts, told, _⟩ := Discovery.addresses?_eq_some_iff.mp tells
      exact isSilent texts told
    rw [noAddresses]
    exact run.ignores_rest run.pool.fallback

/-- Discovery sends its call, or is over at once with nobody to ask. It may change which connection
the pool remembers. -/
theorem beginDiscovery_eq (run : PoolRun) (function : String) :
    ∃ fallback, run.beginDiscovery function =
      match run.asked? with
      | none => ({ run with pool := { run.pool with fallback } } : PoolRun).rest
      | some id =>
          ⟨run.network.note (.sent id 0 (Discovery.request function)), { run.pool with fallback },
            .ask id⟩ := by
  obtain ⟨fallback, isPool, _⟩ := run.pool.select_eq run.network
  refine ⟨fallback, ?_⟩
  unfold asked? beginDiscovery
  generalize run.pool.select run.network = selected at isPool ⊢
  obtain ⟨pool, chosen⟩ := selected
  subst isPool
  cases chosen with
  | none => rfl
  | some id =>
      cases isClosed : run.network.isClosed id <;> simp [Network.hand, Option.filter, isClosed]

end PoolRun

/-- A call that is under way: it was sent, and nothing else was done. -/
structure Course.Awaits (dialer : Dialer) (before : Course) (function : String) (id : ConnectionId)
    (deeds : List Occurrence) (after : Course) : Prop where
  duty : after.run.duty = .ask id
  deeds : deeds = [.sent id 0 (Discovery.request function)]
  tracked : after.run.pool.tracked = before.run.pool.tracked
  entries : after.run.pool.entries = before.run.pool.entries
  learns : ∀ outcome answered, Step dialer after (.answer outcome) answered →
    after.run.Learns outcome answered.run

variable {dialer : Dialer} {function : String} {before after : Course} {deeds : List Occurrence}

theorem Step.learns {outcome : Outcome} (step : Step dialer before (.answer outcome) after) :
    before.run.Learns outcome after.run := by
  cases step with
  | answer => exact before.run.learns_finishDiscovery outcome

theorem Asks.awaits (asks : Asks dialer function before after deeds) {id : ConnectionId}
    (isAsked : before.run.asked? = some id) : before.Awaits dialer function id deeds after := by
  induction asks with
  | begins step =>
      cases step with
      | discovery =>
          obtain ⟨fallback, isBegun⟩ := before.run.beginDiscovery_eq function
          rw [isAsked] at isBegun
          rw [isBegun]
          refine ⟨rfl, ?_, rfl, rfl, fun _ _ => Step.learns⟩
          exact (Network.Acts.note .nil).since_eq
  | meanwhile _ duty step isOther awaits =>
      obtain ⟨sameEntries, sameTracked⟩ := step.entries_of_isOther isOther
      refine ⟨?_, awaits.deeds, ?_, ?_, fun _ _ => Step.learns⟩
      · rw [step.duty_of_isBusy (by rw [duty]; exact nofun) isOther, awaits.duty]
      · rw [sameTracked, awaits.tracked]
      · rw [sameEntries, awaits.entries]

/-- With nobody to ask there is no call to be answered. -/
theorem Asks.ignores (asks : Asks dialer function before after deeds)
    (isNobody : before.run.asked? = none) : deeds = [] ∧ before.run.Ignores after.run := by
  induction asks with
  | begins step =>
      cases step with
      | discovery =>
          obtain ⟨fallback, isBegun⟩ := before.run.beginDiscovery_eq function
          rw [isNobody] at isBegun
          rw [isBegun]
          have ignores := before.run.ignores_rest fallback
          exact ⟨ignores.deeds, ignores⟩
  | meanwhile _ duty _ _ inductionHypothesis =>
      have noCall := inductionHypothesis.2.duty
      rw [duty] at noCall
      split at noCall <;> cases noCall

/-- A discovery call does nothing but ask. If there is nobody to ask it is over and has changed
nothing; else it changes nothing as long as it is under way, and its outcome decides. The texts that
it tells are handed to an update, without repeats and in the order of first occurrences, and
whatever tells nothing changes nothing. -/
theorem learns_of_asks (asks : Asks dialer function before after deeds) :
    (before.run.asked? = none → deeds = [] ∧ before.run.Ignores after.run) ∧
      ∀ id, before.run.asked? = some id → before.Awaits dialer function id deeds after :=
  ⟨asks.ignores, fun _ => asks.awaits⟩

/-- An answer that tells an address twice, and once as binary data. -/
theorem learns_of_repeated_text :
    ∃ start asking answered deeds outcome, Opens .fresh ["a"] .default start ∧
      Asks .fresh "addresses" start asking deeds ∧ start.run.asked? = some ⟨0⟩ ∧
      Step .fresh asking (.answer outcome) answered ∧
      Discovery.Tells outcome ["b", "a", "b"] ∧ asking.run.Learns outcome answered.run := by
  obtain ⟨start, opens, isAsked⟩ :
      ∃ start, Opens .fresh ["a"] .default start ∧ start.run.asked? = some ⟨0⟩ :=
    ⟨_, @Opens.intro _ _ _ .empty _ _ _ _ rfl (.open nofun .connected .done) rfl, rfl⟩
  have asks : Asks .fresh "addresses" start _ _ := .begins (.discovery "addresses" opens.isIdle)
  have awaits := (learns_of_asks asks).2 ⟨0⟩ isAsked
  let response : Response :=
    { Response.empty with data := [.array [.binary (Utf8.encode "b"), .text "a", .text "b"]] }
  have told : Discovery.Tells (.ok response) ["b", "a", "b"] := by
    refine .intro rfl (.array ?_) (by decide) nofun
    exact .cons (.binary "b") (.cons (.text "a") (.cons (.text "b") .nil))
  have answers : Step .fresh _ (.answer (.ok response)) _ := .answer (.ok response) awaits.duty
  exact ⟨start, _, _, _, _, opens, asks, isAsked, answers, told, awaits.learns _ _ answers⟩

/-- An answer that begins with a list of texts is ignored when nil follows. -/
theorem ignores_of_second_value :
    ∃ start asking answered deeds response, Opens .fresh ["a"] .default start ∧
      Asks .fresh "addresses" start asking deeds ∧ asking.run.pool.isClosed = false ∧
      Step .fresh asking (.answer (.ok response)) answered ∧
      response.data = [.array [.text "a", .text "b"], .nil] ∧
      (Value.array [.text "a", .text "b"]).SpellsAll ["a", "b"] ∧
      asking.run.Ignores answered.run ∧ answered.run ≠ asking.run.beginUpdate ["a", "b"] := by
  have opens : Opens .fresh ["a"] .default _ :=
    @Opens.intro _ _ _ .empty _ _ _ _ rfl (.open nofun .connected .done) rfl
  let response : Response :=
    { Response.empty with data := [.array [.text "a", .text "b"], .nil] }
  have spell : (Value.array [.text "a", .text "b"]).SpellsAll ["a", "b"] :=
    .array (.cons (.text "a") (.cons (.text "b") .nil))
  have isSilent (texts : List String) : ¬ Discovery.Tells (.ok response) texts := by
    rintro ⟨isData, _, _, areLists⟩
    cases isData
    obtain ⟨_, spells⟩ := areLists .nil List.mem_cons_self
    cases spells
  obtain ⟨asking, deeds, asks, duty, isOpen, wouldUpdate⟩ :
      ∃ asking deeds, Asks .fresh "addresses" _ asking deeds ∧ asking.run.duty = .ask ⟨0⟩ ∧
        asking.run.pool.isClosed = false ∧
        (asking.run.beginUpdate ["a", "b"]).duty = .update "b" [] ["a"] ["a", "b"] :=
    ⟨_, _, .begins (.discovery "addresses" opens.isIdle), rfl, rfl, by decide⟩
  have answers : Step .fresh asking (.answer (.ok response)) _ := .answer (.ok response) duty
  have ignores := answers.learns.ignores isSilent
  refine ⟨_, asking, _, deeds, response, opens, asks, isOpen, answers, rfl, spell, ignores, ?_⟩
  intro isUpdate
  have noUpdate := ignores.duty
  rw [isUpdate, wouldUpdate] at noUpdate
  split at noUpdate <;> cases noUpdate

end FailoverPool
