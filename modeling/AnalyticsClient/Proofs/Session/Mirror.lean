import AnalyticsClient.Proofs.Session.Handover
import AnalyticsClient.Proofs.Session.Party
import Mathlib.Data.List.Nodup

/-! Two sessions in which one party sees the same, step by step. -/

namespace AnalyticsClient

/-- Whether two outcomes that are waited for are of paired requests, or the same refusal. -/
inductive PartAlike (pairs : List (Nat × Nat)) : Outcome Nat → Outcome Nat → Prop
  | paired {a b : Nat} (mem : (a, b) ∈ pairs) : PartAlike pairs (.ok a) (.ok b)
  | refused (error : Error) : PartAlike pairs (.error error) (.error error)

/-- Whether two handles wait for paired requests. -/
inductive Handle.Alike (pairs : List (Nat × Nat)) : Handle → Handle → Prop
  | submitted {a b : Nat} (mem : (a, b) ∈ pairs) (pending : PendingOperation) :
    Handle.Alike pairs (.submitted a pending) (.submitted b pending)
  | awaited {a b : Nat} (mem : (a, b) ∈ pairs) : Handle.Alike pairs (.awaited a) (.awaited b)
  | awaitedMany {parts parts' : List (Outcome Nat)}
    (alike : List.Forall₂ (PartAlike pairs) parts parts') :
    Handle.Alike pairs (.awaitedMany parts) (.awaitedMany parts')

/-- What is waited for stays alike when more requests are paired. -/
theorem PartAlike.mono {pairs more : List (Nat × Nat)} (subset : pairs ⊆ more)
    {part part' : Outcome Nat} (alike : PartAlike pairs part part') :
    PartAlike more part part' := by
  cases alike with
  | paired mem => exact .paired (subset mem)
  | refused error => exact .refused error

/-- Handles stay alike when more requests are paired. -/
theorem Handle.Alike.mono {pairs more : List (Nat × Nat)} (subset : pairs ⊆ more)
    {handle handle' : Handle} (alike : handle.Alike pairs handle') : handle.Alike more handle' := by
  cases alike with
  | submitted mem pending => exact .submitted (subset mem) pending
  | awaited mem => exact .awaited (subset mem)
  | awaitedMany alike => exact .awaitedMany (alike.imp fun _ _ part => part.mono subset)

namespace Session

/-- Whether only requests that were made are held, and were delivered anything. -/
structure Sound (session : Session) : Prop where
  held : ∀ engine ∈ session.held, engine < session.submissions.length
  fresh : ∀ engine, session.submissions.length ≤ engine → session.deliveriesOf engine = []

/-- Nothing that becomes of the operations in flight changes that. -/
theorem Sound.advance {orders : List Order} {given : Nat → Option (Reply Output)}
    {before after : Session} (sound : before.Sound) (advance : Advance orders given before after) :
    after.Sound := by
  refine ⟨advance.bounded, fun engine above => ?_⟩
  have length := advance.length_submissions
  -- A request that is not made yet gets no reply, since its delivery would name its submission.
  rw [advance.kept engine, sound.fresh engine (by omega)]
  intro open_
  cases gave : given engine with
  | none => rfl
  | some reply =>
    obtain ⟨submission, made, -⟩ := advance.delivered engine reply open_ gave
    obtain ⟨within, -⟩ := List.getElem?_eq_some_iff.1 made
    omega

variable (R : String → String → Prop)

/-- Whether two requests of two sessions fare alike. -/
structure RequestAlike (a b : Session) (pair : Nat × Nat) : Prop where
  submission : ∃ made made', a.submissions[pair.1]? = some made
    ∧ b.submissions[pair.2]? = some made' ∧ made.Alike R made'
  unanswered : a.Unanswered pair.1 ↔ b.Unanswered pair.2
  deliveries : List.Forall₂ (Delivery.Alike R) (a.deliveriesOf pair.1) (b.deliveriesOf pair.2)

/-- Whether a party sees the same in two sessions: its requests are paired in order, fare alike, and
it keeps alike what it keeps. -/
structure Mirrors (party : Party) (pairs : List (Nat × Nat)) (a b : Session) : Prop where
  config : b.config = a.config
  sound : a.Sound
  sound' : b.Sound
  nodup : (pairs.map Prod.fst).Nodup
  nodup' : (pairs.map Prod.snd).Nodup
  requests : ∀ pair ∈ pairs, RequestAlike R a b pair
  handle : ∀ name, party = .future name →
    Option.Rel (Handle.Alike pairs) (a.handles.get? name) (b.handles.get? name)
  query : ∀ name, party = .stream name →
    Option.Rel (LiveQuery.Alike R) (a.queries.get? name) (b.queries.get? name)

variable {R} {party : Party} {pairs : List (Nat × Nat)} {a b : Session}

/-- Two requests that nobody answered, or to which alike was delivered, fare alike after the same
reply. -/
theorem RequestAlike.advance {a' b' : Session} {pair : Nat × Nat} {orders orders' : List Order}
    {given given' : Nat → Option (Reply Output)} (first : Advance orders given a a')
    (second : Advance orders' given' b b')
    (submission : ∃ made made', a'.submissions[pair.1]? = some made
      ∧ b'.submissions[pair.2]? = some made' ∧ made.Alike R made')
    (unanswered : a.Unanswered pair.1 ↔ b.Unanswered pair.2)
    (deliveries : List.Forall₂ (Delivery.Alike R) (a.deliveriesOf pair.1) (b.deliveriesOf pair.2))
    (same : given pair.1 = given' pair.2) : RequestAlike R a' b' pair := by
  refine ⟨submission, ?_, ?_⟩
  · rw [first.unanswered, second.unanswered, unanswered, same]
  · obtain ⟨made, made', found, found', alike⟩ := submission
    by_cases open_ : a.Unanswered pair.1
    · cases gave : given pair.1 with
      | none =>
        rw [first.kept pair.1 fun _ => gave, second.kept pair.2 fun _ => same ▸ gave]
        exact deliveries
      | some reply =>
        -- Both get the same reply, so what is delivered differs at most in the ids.
        obtain ⟨own, own_, delivered⟩ := first.delivered pair.1 reply open_ gave
        obtain ⟨own', own'_, delivered'⟩ :=
          second.delivered pair.2 reply (unanswered.1 open_) (same ▸ gave)
        obtain rfl : own = made := Option.some.inj (own_.symm.trans found)
        obtain rfl : own' = made' := Option.some.inj (own'_.symm.trans found')
        rw [delivered, delivered']
        exact List.rel_append deliveries (.cons (alike.delivery _ _ reply) .nil)
    · -- A request that was answered before hears of no other reply.
      have closed : ¬ b.Unanswered pair.2 := fun open' => open_ (unanswered.2 open')
      rw [first.kept pair.1 fun here => absurd here open_,
        second.kept pair.2 fun here => absurd here closed]
      exact deliveries

namespace Mirrors

/-- A paired request was made in both sessions. -/
theorem made (mirrors : Mirrors R party pairs a b) {pair : Nat × Nat} (mem : pair ∈ pairs) :
    pair.1 < a.submissions.length ∧ pair.2 < b.submissions.length := by
  obtain ⟨_, _, found, found', -⟩ := (mirrors.requests pair mem).submission
  exact ⟨(List.getElem?_eq_some_iff.1 found).1, (List.getElem?_eq_some_iff.1 found').1⟩

/-- What becomes of the operations in flight keeps two sessions alike for the party, if new requests
are paired in order and the paired ones get the same replies. -/
theorem grow (mirrors : Mirrors R party pairs a b) {a' b' : Session} {orders orders' : List Order}
    {given given' : Nat → Option (Reply Output)} (first : Advance orders given a a')
    (second : Advance orders' given' b b') {new : List (Nat × Nat)}
    (above : ∀ pair ∈ new, a.submissions.length ≤ pair.1 ∧ b.submissions.length ≤ pair.2)
    (nodup : (new.map Prod.fst).Nodup) (nodup' : (new.map Prod.snd).Nodup)
    (submissions : ∀ pair ∈ new, ∃ made made', a'.submissions[pair.1]? = some made
      ∧ b'.submissions[pair.2]? = some made' ∧ made.Alike R made')
    (replies : ∀ pair ∈ pairs ++ new, given pair.1 = given' pair.2)
    (handle : ∀ name, party = .future name →
      Option.Rel (Handle.Alike (pairs ++ new)) (a'.handles.get? name) (b'.handles.get? name))
    (query : ∀ name, party = .stream name →
      Option.Rel (LiveQuery.Alike R) (a'.queries.get? name) (b'.queries.get? name)) :
    Mirrors R party (pairs ++ new) a' b' where
  config := by rw [first.config, second.config, mirrors.config]
  sound := mirrors.sound.advance first
  sound' := mirrors.sound'.advance second
  nodup := by
    rw [List.map_append]
    refine List.Nodup.append mirrors.nodup nodup fun engine old fresh => ?_
    -- A request that is new was not made before.
    obtain ⟨pair, mem, rfl⟩ := List.mem_map.1 old
    obtain ⟨pair', mem', same⟩ := List.mem_map.1 fresh
    have made := (mirrors.made mem).1
    have later := (above pair' mem').1
    omega
  nodup' := by
    rw [List.map_append]
    refine List.Nodup.append mirrors.nodup' nodup' fun engine old fresh => ?_
    obtain ⟨pair, mem, rfl⟩ := List.mem_map.1 old
    obtain ⟨pair', mem', same⟩ := List.mem_map.1 fresh
    have made := (mirrors.made mem).2
    have later := (above pair' mem').2
    omega
  requests pair mem := by
    have same := replies pair mem
    rcases List.mem_append.1 mem with old | fresh
    · obtain ⟨⟨made, made', found, found', alike⟩, unanswered, deliveries⟩ :=
        mirrors.requests pair old
      refine .advance first second ?_ unanswered deliveries same
      exact ⟨made, made', first.getElem?_submissions found, second.getElem?_submissions found',
        alike⟩
    · -- Nobody answered a request before it was made.
      obtain ⟨above₁, above₂⟩ := above pair fresh
      have unanswered : a.Unanswered pair.1 ↔ b.Unanswered pair.2 :=
        ⟨fun _ => .inr above₂, fun _ => .inr above₁⟩
      refine .advance first second (submissions pair fresh) unanswered ?_ same
      rw [mirrors.sound.fresh _ above₁, mirrors.sound'.fresh _ above₂]
      exact .nil
  handle := handle
  query := query

/-- What becomes of the operations in flight keeps two sessions alike for the party, if it makes no
request of the party's, the paired ones get the same replies, and what callers keep stays as it
is. -/
theorem ensue (mirrors : Mirrors R party pairs a b) {a' b' : Session} {orders orders' : List Order}
    {given given' : Nat → Option (Reply Output)} (first : Advance orders given a a')
    (second : Advance orders' given' b b') (replies : ∀ pair ∈ pairs, given pair.1 = given' pair.2)
    (handles : ∀ name, party = .future name → a'.handles.get? name = a.handles.get? name
      ∧ b'.handles.get? name = b.handles.get? name)
    (query : ∀ name, party = .stream name →
      Option.Rel (LiveQuery.Alike R) (a'.queries.get? name) (b'.queries.get? name)) :
    Mirrors R party pairs a' b' := by
  rw [← List.append_nil pairs]
  refine mirrors.grow first second (fun _ mem => by cases mem) .nil .nil
    (fun _ mem => by cases mem) ?_ ?_ query
  · rwa [List.append_nil]
  · -- No more requests are paired, so handles that were alike are alike still.
    intro name own
    obtain ⟨kept, kept'⟩ := handles name own
    rw [kept, kept', List.append_nil]
    exact mirrors.handle name own

/-- Of two pairs, either both requests are the same or none is. -/
theorem fst_eq_iff (mirrors : Mirrors R party pairs a b) {pair other : Nat × Nat}
    (mem : pair ∈ pairs) (mem' : other ∈ pairs) : pair.1 = other.1 ↔ pair.2 = other.2 :=
  ⟨fun same => congrArg Prod.snd (List.inj_on_of_nodup_map mirrors.nodup mem mem' same),
    fun same => congrArg Prod.fst (List.inj_on_of_nodup_map mirrors.nodup' mem mem' same)⟩

/-- What callers keep is no part of the rest. -/
theorem with_handles (mirrors : Mirrors R party pairs a b) (handles handles' : Dict Handle)
    (ready ready' : List (Reply Output))
    (alike : ∀ name, party = .future name →
      Option.Rel (Handle.Alike pairs) (handles.get? name) (handles'.get? name)) :
    Mirrors R party pairs { a with handles, ready } { b with handles := handles', ready := ready' }
    where
  -- Only the handles and the replies that are ready are new, so only the handles are compared anew.
  config := mirrors.config
  sound := ⟨mirrors.sound.held, mirrors.sound.fresh⟩
  sound' := ⟨mirrors.sound'.held, mirrors.sound'.fresh⟩
  nodup := mirrors.nodup
  nodup' := mirrors.nodup'
  requests pair mem :=
    ⟨(mirrors.requests pair mem).submission, (mirrors.requests pair mem).unanswered,
      (mirrors.requests pair mem).deliveries⟩
  handle := alike
  query := mirrors.query

/-- Replies that are ready are no part of what a party sees. -/
theorem with_ready (mirrors : Mirrors R party pairs a b) (ready ready' : List (Reply Output)) :
    Mirrors R party pairs { a with ready } { b with ready := ready' } :=
  mirrors.with_handles a.handles b.handles ready ready' mirrors.handle

/-- What a party keeps under its name may be replaced by alike handles. -/
theorem keep (mirrors : Mirrors R party pairs a b) (id : String) {handle handle' : Handle}
    (alike : handle.Alike pairs handle') :
    Mirrors R party pairs (a.keep id handle) (b.keep id handle') := by
  refine mirrors.with_handles _ _ a.ready b.ready fun name own => ?_
  -- Only what stands under the one name is another.
  rw [Dict.get?_insert, Dict.get?_insert]
  split
  · exact .some alike
  · exact mirrors.handle name own

/-- What a party keeps under its name may be given up. -/
theorem forget (mirrors : Mirrors R party pairs a b) (id : String) :
    Mirrors R party pairs (a.forget id) (b.forget id) := by
  refine mirrors.with_handles _ _ a.ready b.ready fun name own => ?_
  rw [Dict.get?_erase, Dict.get?_erase]
  split
  · exact .none
  · exact mirrors.handle name own

/-- The outcomes of paired requests are alike. -/
theorem outcome? (mirrors : Mirrors R party pairs a b) {pair : Nat × Nat} (mem : pair ∈ pairs) :
    Option.Rel (Outcome.Alike R) (a.ledger.outcome? pair.1) (b.ledger.outcome? pair.2) := by
  have deliveries := (mirrors.requests pair mem).deliveries
  rw [outcome?_eq, outcome?_eq]
  generalize a.deliveriesOf pair.1 = found, b.deliveriesOf pair.2 = found' at deliveries ⊢
  -- What a future finds is the first delivery.
  cases deliveries with
  | nil => exact .none
  | cons first rest => exact .some first.outcome

/-- The outcomes of what is waited for are alike. -/
theorem partOutcome? (mirrors : Mirrors R party pairs a b) {part part' : Outcome Nat}
    (alike : PartAlike pairs part part') :
    Option.Rel (Outcome.Alike R) (a.partOutcome? part) (b.partOutcome? part') := by
  cases alike with
  | paired mem => exact mirrors.outcome? mem
  | refused error => exact .some (.refl _)

/-- The outcomes of several things that are waited for are alike. -/
theorem partOutcomes? (mirrors : Mirrors R party pairs a b) {parts parts' : List (Outcome Nat)}
    (alike : List.Forall₂ (PartAlike pairs) parts parts') :
    Option.Rel (List.Forall₂ (Outcome.Alike R)) (parts.mapM a.partOutcome?)
      (parts'.mapM b.partOutcome?) :=
  rel_mapM (fun {_ _} part => mirrors.partOutcome? part) alike

end Mirrors

end Session

end AnalyticsClient
