import AnalyticsClient.Proofs.Session.OwnStep

/-! What a party sees in a session does not depend on what the others do. -/

namespace AnalyticsClient

variable {config : Config} {party : Party}

namespace Tally

variable {tally : Tally} {turn part : Turn}

/-- A turn that concerns the party is a reply to a request of its own, or a step that it takes. -/
theorem part?_eq_some (concerns : tally.part? config party turn = some part) :
    (∃ engine reply, turn.2 = .reply engine reply ∧ engine ∈ tally.own
        ∧ part = ([], .reply (tally.own.idxOf engine) reply))
      ∨ turn.2.party? = some party
        ∧ part = (turn.1.take (turn.2.orders config).length, turn.2) := by
  -- A reply concerns whom it goes to, and any other step concerns whom it is taken by.
  simp only [part?] at concerns
  split at concerns
  · next engine reply replies =>
    split at concerns
    · next own => exact .inl ⟨engine, reply, replies, own, (Option.some.inj concerns).symm⟩
    · cases concerns
  · split at concerns
    · next own => exact .inr ⟨own, (Option.some.inj concerns).symm⟩
    · cases concerns

/-- A turn makes as many requests, and draws as many ids, as it does for the party. -/
theorem orders_part (concerns : tally.part? config party turn = some part) :
    turn.2.orders config = part.2.orders config
      ∧ turn.2.draws config = part.2.draws config := by
  rcases part?_eq_some concerns with ⟨engine, reply, replies, -, rfl⟩ | ⟨-, rfl⟩
  · -- A reply makes and draws none, whatever the number.
    rw [replies]
    exact ⟨rfl, rfl⟩
  · exact ⟨rfl, rfl⟩

/-- A turn that does not concern the party is neither. -/
theorem part?_eq_none (foreign : tally.part? config party turn = none) :
    turn.2.party? ≠ some party
      ∧ ∀ engine reply, turn.2 = .reply engine reply → engine ∉ tally.own := by
  simp only [part?] at foreign
  split at foreign
  · next engine reply replies =>
    refine ⟨by simp [replies, Step.party?], fun engine' reply' replies' own => ?_⟩
    -- The reply would concern the party.
    obtain ⟨rfl, rfl⟩ := Step.reply.inj (replies.symm.trans replies')
    rw [if_pos own] at foreign
    cases foreign
  · next other =>
    refine ⟨fun own => ?_, fun engine reply replies => absurd replies (other engine reply)⟩
    rw [if_pos own] at foreign
    cases foreign

/-- The requests of a turn that concerns the party are its own. -/
theorem own_after (concerns : tally.part? config party turn = some part) :
    (tally.after config party turn).own
      = tally.own ++ List.range' tally.made (turn.2.orders config).length := by
  simp only [after]
  rcases part?_eq_some concerns with ⟨engine, reply, replies, -⟩ | ⟨own, -⟩
  · -- A reply makes no request.
    rw [replies, if_neg (by simp [Step.party?])]
    exact (List.append_nil _).symm
  · rw [if_pos own]

/-- Those of other turns are not. -/
theorem own_after_of_none (foreign : tally.part? config party turn = none) :
    (tally.after config party turn).own = tally.own :=
  if_neg (part?_eq_none foreign).1

/-- A turn that concerns the party gives it its answer. -/
theorem answers_of_some (concerns : tally.part? config party turn = some part) (turns : List Turn)
    (report : Session.StepReport) (reports : List Session.StepReport) :
    tally.answers config party (turn :: turns) (report :: reports)
      = report.answer :: (tally.after config party turn).answers config party turns reports := by
  rw [answers, concerns]
  rfl

/-- Other turns give it none. -/
theorem answers_of_none (foreign : tally.part? config party turn = none) (turns : List Turn)
    (report : Session.StepReport) (reports : List Session.StepReport) :
    tally.answers config party (turn :: turns) (report :: reports)
      = (tally.after config party turn).answers config party turns reports := by
  rw [answers, foreign]
  rfl

/-- The ids that are drawn in a turn that concerns the party are its own. -/
theorem draws_of_some (concerns : tally.part? config party turn = some part) (drawn : Nat)
    (rest : List Turn) :
    party.draws config drawn (turn :: rest)
      = List.range' drawn (turn.2.draws config)
        ++ party.draws config (drawn + turn.2.draws config) rest := by
  rw [Party.draws]
  rcases part?_eq_some concerns with ⟨engine, reply, replies, -⟩ | ⟨own, -⟩
  · rw [replies, if_neg (by simp [Step.party?])]
    rfl
  · rw [if_pos own]

/-- Those of other turns are not. -/
theorem draws_of_none (foreign : tally.part? config party turn = none) (drawn : Nat)
    (rest : List Turn) :
    party.draws config drawn (turn :: rest)
      = party.draws config (drawn + turn.2.draws config) rest := by
  rw [Party.draws, if_neg (part?_eq_none foreign).1]
  rfl

/-- A party draws every id but once, and none that was drawn before. -/
theorem pairwise_draws (config : Config) (party : Party) (turns : List Turn) : ∀ drawn : Nat,
    (party.draws config drawn turns).Pairwise (· < ·)
      ∧ ∀ draw ∈ party.draws config drawn turns, drawn ≤ draw := by
  induction turns with
  | nil => exact fun _ => ⟨.nil, fun _ mem => by cases mem⟩
  | cons turn rest ih =>
    intro drawn
    obtain ⟨increasing, above⟩ := ih (drawn + turn.2.draws config)
    have first : ∀ draw, draw ∈ (if turn.2.party? = some party then
        List.range' drawn (turn.2.draws config) else []) →
          drawn ≤ draw ∧ draw < drawn + turn.2.draws config := by
      intro draw mem
      split at mem
      · exact List.mem_range'_1.1 mem
      · cases mem
    rw [Party.draws]
    refine ⟨List.pairwise_append.2 ⟨?_, increasing, fun draw mem draw' mem' => ?_⟩,
      fun draw mem => ?_⟩
    · split
      · exact List.pairwise_lt_range'
      · exact .nil
    · -- Later turns draw ids that come later.
      exact Nat.lt_of_lt_of_le (first draw mem).2 (above draw' mem')
    · rcases List.mem_append.1 mem with here | later
      · exact (first draw here).1
      · exact Nat.le_trans (Nat.le_add_right _ _) (above draw later)

end Tally

/-- Whether the turns of two runs that concern a party are the same, the others left aside. -/
inductive Matched (config : Config) (party : Party) :
    Tally → Tally → List Turn → List Turn → Prop
  /-- Both runs are over. -/
  | nil {tally tally' : Tally} : Matched config party tally tally' [] []
  /-- The next turn of the first run is none of the party's business. -/
  | left {tally tally' : Tally} {turn : Turn} {turns turns' : List Turn}
    (foreign : tally.part? config party turn = none)
    (rest : Matched config party (tally.after config party turn) tally' turns turns') :
    Matched config party tally tally' (turn :: turns) turns'
  /-- The next turn of the second run is none of the party's business. -/
  | right {tally tally' : Tally} {turn : Turn} {turns turns' : List Turn}
    (foreign : tally'.part? config party turn = none)
    (rest : Matched config party tally (tally'.after config party turn) turns turns') :
    Matched config party tally tally' turns (turn :: turns')
  /-- The next turns of both runs are the same to the party. -/
  | own {tally tally' : Tally} {turn turn' part : Turn} {turns turns' : List Turn}
    (concerns : tally.part? config party turn = some part)
    (concerns' : tally'.part? config party turn' = some part)
    (rest : Matched config party (tally.after config party turn) (tally'.after config party turn')
      turns turns') :
    Matched config party tally tally' (turn :: turns) (turn' :: turns')

/-- Two runs match if all turns that concern the party are the same. -/
theorem matched_of_parts (turns : List Turn) : ∀ {tally tally' : Tally} {turns' : List Turn},
    tally.parts config party turns = tally'.parts config party turns' →
      Matched config party tally tally' turns turns' := by
  induction turns with
  | nil =>
    intro tally tally' turns' same
    -- No turn of the other run concerns the party.
    induction turns' generalizing tally' with
    | nil => exact .nil
    | cons turn' rest' ih =>
      cases concerns' : tally'.part? config party turn' with
      | none => exact .right concerns' (ih (by simpa [Tally.parts, concerns'] using same))
      | some part' => simp [Tally.parts, concerns'] at same
  | cons turn rest ih =>
    intro tally tally' turns' same
    cases concerns : tally.part? config party turn with
    | none => exact .left concerns (ih (by simpa [Tally.parts, concerns] using same))
    | some part =>
      -- The next turn of the other run that concerns the party is the same.
      induction turns' generalizing tally' with
      | nil => simp [Tally.parts, concerns] at same
      | cons turn' rest' ih' =>
        cases concerns' : tally'.part? config party turn' with
        | none => exact .right concerns' (ih' (by simpa [Tally.parts, concerns'] using same))
        | some part' =>
          simp only [Tally.parts, concerns, concerns', Option.toList_some, List.cons_append,
            List.nil_append, List.cons.injEq] at same
          obtain ⟨rfl, later⟩ := same
          exact .own concerns concerns' (ih later)

/-- In two runs that match the party draws as many ids. -/
theorem Matched.length_draws {tally tally' : Tally} {turns turns' : List Turn}
    (matched : Matched config party tally tally' turns turns') : ∀ drawn drawn' : Nat,
    (party.draws config drawn turns).length = (party.draws config drawn' turns').length := by
  induction matched with
  | nil => exact fun _ _ => rfl
  | left foreign rest ih =>
    intro drawn drawn'
    rw [Tally.draws_of_none foreign, ih]
  | right foreign rest ih =>
    intro drawn drawn'
    rw [Tally.draws_of_none foreign, ih]
  | own concerns concerns' rest ih =>
    intro drawn drawn'
    -- Both turns draw as many as the part that they are.
    rw [Tally.draws_of_some concerns, Tally.draws_of_some concerns', List.length_append,
      List.length_append, List.length_range', List.length_range', (Tally.orders_part concerns).2,
      (Tally.orders_part concerns').2, ih]

namespace Session

variable {R : String → String → Prop} {pairs : List (Nat × Nat)} {a b a' b' : Session}

/-- Whether a session went on without answering certain requests, and without a party. -/
structure Aside (party : Party) (own : List Nat) (before after : Session) : Prop where
  advance : ∃ orders given, Advance orders given before after ∧ ∀ engine ∈ own, given engine = none
  handle : ∀ name, party = .future name → after.handles.get? name = before.handles.get? name
  query : ∀ name, party = .stream name → after.queries.get? name = before.queries.get? name

/-- A session that stays as it is goes on without anybody. -/
theorem Sound.aside {session : Session} (sound : session.Sound) (own : List Nat) :
    Aside party own session session where
  advance := ⟨[], fun _ => none, .missed sound.held fun _ _ => rfl, fun _ _ => rfl⟩
  handle _ _ := rfl
  query _ _ := rfl

/-- A turn that does not concern a party goes on without it. -/
theorem Sound.aside_step {session : Session} (sound : session.Sound) {tally : Tally} {turn : Turn}
    (made : ∀ engine ∈ tally.own, engine < session.submissions.length)
    (foreign : tally.part? config party turn = none) :
    Aside party tally.own session (session.step turn.1 turn.2).2 := by
  obtain ⟨other, unanswered⟩ := Tally.part?_eq_none foreign
  refine ⟨⟨_, _, Advance.step sound.held turn, fun engine own => ?_⟩, ?_, ?_⟩
  · -- Only a reply could answer an earlier request, and it answers none of these.
    rw [Turn.replyTo?, if_neg (Nat.not_le.2 (made engine own))]
    split
    · next answered reply replies =>
      refine if_neg fun same => unanswered answered reply replies ?_
      rwa [same]
    · rfl
  · intro name same
    exact @handles_act { session with ready := turn.1 } _ _ (same ▸ other)
  · intro name same
    exact @queries_act_other { session with ready := turn.1 } _ _ (same ▸ other)

/-- Where two sessions go on without a party, it goes on to see the same in both. -/
theorem Mirrors.aside (mirrors : Mirrors R party pairs a b)
    (first : Aside party (pairs.map Prod.fst) a a')
    (second : Aside party (pairs.map Prod.snd) b b') : Mirrors R party pairs a' b' := by
  obtain ⟨⟨_, _, advance, unanswered⟩, handle, query⟩ := first
  obtain ⟨⟨_, _, advance', unanswered'⟩, handle', query'⟩ := second
  -- Neither session changes in what the party has to do with.
  refine mirrors.ensue advance advance' (fun pair mem => ?_)
    (fun name own => ⟨handle name own, handle' name own⟩) fun name own => ?_
  · rw [unanswered pair.1 (List.mem_map_of_mem mem), unanswered' pair.2 (List.mem_map_of_mem mem)]
  · rw [query name own, query' name own]
    exact mirrors.query name own

/-- Numbers that stand at the same place are paired. -/
theorem mem_of_idxOf_eq {engine engine' : Nat} (mem : engine ∈ pairs.map Prod.fst)
    (mem' : engine' ∈ pairs.map Prod.snd)
    (same : (pairs.map Prod.fst).idxOf engine = (pairs.map Prod.snd).idxOf engine') :
    (engine, engine') ∈ pairs := by
  -- Both numbers are read off the pair that stands at their place.
  have within := List.idxOf_lt_length_of_mem mem
  have found : (pairs.map Prod.fst)[(pairs.map Prod.fst).idxOf engine] = engine :=
    List.getElem_idxOf within
  have within' := List.idxOf_lt_length_of_mem mem'
  have found' : (pairs.map Prod.snd)[(pairs.map Prod.snd).idxOf engine'] = engine' :=
    List.getElem_idxOf within'
  simp only [← same, List.getElem_map] at found found'
  rw [← found, ← found']
  exact List.getElem_mem _

/-- The same turn that concerns the party gives alike in both sessions, and pairs its requests. -/
theorem Mirrors.step (mirrors : Mirrors R party pairs a b) {tally tally' : Tally}
    {turn turn' part : Turn} (own : tally.own = pairs.map Prod.fst)
    (own' : tally'.own = pairs.map Prod.snd) (config_ : a.config = config)
    (concerns : tally.part? config party turn = some part)
    (concerns' : tally'.part? config party turn' = some part) (reflexive : ∀ id, R id id)
    (ids : ∀ place < turn.2.draws config,
      R (a.ids.id (a.ids.drawn + place)) (b.ids.id (b.ids.drawn + place))) :
    Concur R party (pairs
        ++ paired a.submissions.length b.submissions.length (turn.2.orders config).length)
      (a.step turn.1 turn.2) (b.step turn'.1 turn'.2) := by
  subst config_
  obtain ⟨ready, step⟩ := turn
  obtain ⟨ready', step'⟩ := turn'
  have before := mirrors.with_ready ready ready'
  rcases Tally.part?_eq_some concerns with ⟨engine, reply, rfl, mem, rfl⟩ | ⟨mine, rfl⟩
  · rcases Tally.part?_eq_some concerns' with ⟨engine', reply', rfl, mem', same⟩ | ⟨mine', same⟩
    · -- Both are replies to the request of the same place among those of the party.
      simp only [Prod.mk.injEq, Step.reply.injEq, true_and] at same
      obtain ⟨place, rfl⟩ := same
      rw [own] at mem place
      rw [own'] at mem' place
      have concur := before.reply (mem_of_idxOf_eq mem mem' place) reply
      refine Concur.unpaired ?_ rfl
      exact ⟨concur.answers, concur.after.with_ready [] []⟩
    · -- No reply is the party's own step.
      simp only [Prod.mk.injEq] at same
      rw [← same.2] at mine'
      cases mine'
  · rcases Tally.part?_eq_some concerns' with ⟨engine', reply', rfl, mem', same⟩ | ⟨mine', same⟩
    · simp only [Prod.mk.injEq] at same
      rw [same.2] at mine
      cases mine
    · -- Both are the same step, which takes the same replies.
      simp only [Prod.mk.injEq] at same
      obtain ⟨taken, rfl⟩ := same
      have concur := before.act mine reflexive ids taken
      exact ⟨concur.answers, concur.after.with_ready [] []⟩

variable (config party R) in
/-- Whether a party sees the same in two sessions, by what was counted for it along two runs. -/
structure Mirrored (tally tally' : Tally) (a b : Session) : Prop where
  config : a.config = config
  made : tally.made = a.submissions.length
  made' : tally'.made = b.submissions.length
  mirrors : ∃ pairs, Mirrors R party pairs a b
    ∧ tally.own = pairs.map Prod.fst ∧ tally'.own = pairs.map Prod.snd

namespace Mirrored

variable {tally tally' : Tally} {turn turn' part : Turn}

/-- A turn of the first session that does not concern the party goes on without it. -/
theorem left (mirrored : Mirrored config party R tally tally' a b)
    (foreign : tally.part? config party turn = none) :
    Mirrored config party R (tally.after config party turn) tally' (a.step turn.1 turn.2).2 b := by
  obtain ⟨config_, made, made', pairs, mirrors, own, own'⟩ := mirrored
  have advance := Advance.step mirrors.sound.held turn
  -- Nothing is paired in a turn that only one session takes.
  refine ⟨advance.config.trans config_, ?_, made', pairs, ?_, ?_, own'⟩
  · rw [advance.length_submissions, ← made, config_]
    rfl
  · have within : ∀ engine ∈ tally.own, engine < a.submissions.length := by
      intro engine mem
      rw [own] at mem
      obtain ⟨pair, mem', rfl⟩ := List.mem_map.1 mem
      exact (mirrors.made mem').1
    have first := mirrors.sound.aside_step within foreign
    rw [own] at first
    exact mirrors.aside first (mirrors.sound'.aside _)
  · rw [Tally.own_after_of_none foreign, own]

/-- A turn of the second session that does not concern the party goes on without it. -/
theorem right (mirrored : Mirrored config party R tally tally' a b)
    (foreign : tally'.part? config party turn = none) :
    Mirrored config party R tally (tally'.after config party turn) a (b.step turn.1 turn.2).2 := by
  obtain ⟨config_, made, made', pairs, mirrors, own, own'⟩ := mirrored
  have advance := Advance.step mirrors.sound'.held turn
  refine ⟨config_, made, ?_, pairs, ?_, own, ?_⟩
  · rw [advance.length_submissions, ← made', mirrors.config, config_]
    rfl
  -- The turn of somebody else leaves alone what the party sees, and the first run stands still.
  · have within : ∀ engine ∈ tally'.own, engine < b.submissions.length := by
      intro engine mem
      rw [own'] at mem
      obtain ⟨pair, mem', rfl⟩ := List.mem_map.1 mem
      exact (mirrors.made mem').2
    have second := mirrors.sound'.aside_step within foreign
    rw [own'] at second
    exact mirrors.aside (mirrors.sound.aside _) second
  · rw [Tally.own_after_of_none foreign, own']

/-- The same turn that concerns the party gives alike in both sessions. -/
theorem own (mirrored : Mirrored config party R tally tally' a b)
    (concerns : tally.part? config party turn = some part)
    (concerns' : tally'.part? config party turn' = some part) (reflexive : ∀ id, R id id)
    (ids : ∀ place < turn.2.draws config,
      R (a.ids.id (a.ids.drawn + place)) (b.ids.id (b.ids.drawn + place))) :
    (a.step turn.1 turn.2).1.Alike R (b.step turn'.1 turn'.2).1
      ∧ Mirrored config party R (tally.after config party turn) (tally'.after config party turn')
        (a.step turn.1 turn.2).2 (b.step turn'.1 turn'.2).2 := by
  obtain ⟨config_, made, made', pairs, mirrors, own, own'⟩ := mirrored
  have concur := mirrors.step own own' config_ concerns concerns' reflexive ids
  have advance := Advance.step mirrors.sound.held turn
  have advance' := Advance.step mirrors.sound'.held turn'
  refine ⟨concur.answers, advance.config.trans config_, ?_, ?_, _, concur.after, ?_, ?_⟩
  · rw [advance.length_submissions, ← made, config_]
    rfl
  · rw [advance'.length_submissions, ← made', mirrors.config, config_]
    rfl
  · -- The requests of the turn are paired with those of the other one.
    rw [Tally.own_after concerns, own, made, List.map_append, map_fst_paired]
  · rw [Tally.own_after concerns', own', made', (Tally.orders_part concerns').1,
      ← (Tally.orders_part concerns).1, List.map_append, map_snd_paired]

/-- What the party is shown is alike. -/
theorem view (mirrored : Mirrored config party R tally tally' a b) :
    (a.view party tally.own).Alike R (b.view party tally'.own) := by
  obtain ⟨-, -, -, pairs, mirrors, own, own'⟩ := mirrored
  rw [own, own']
  refine ⟨?_, ?_, ?_⟩
  · -- Each paired request was made in both sessions, so none is left out of the list.
    have requests := mirrors.requests
    clear own own' mirrors
    simp only [Session.view]
    induction pairs with
    | nil => exact .nil
    | cons pair rest ih =>
      obtain ⟨submission, submission', found, found', alike⟩ :=
        (requests pair List.mem_cons_self).submission
      simp only [List.map_cons, List.filterMap_cons, found, found']
      exact .cons alike (ih fun pair mem => requests pair (List.mem_cons_of_mem _ mem))
  · simp only [Session.view, List.map_map, List.forall₂_map_left_iff, List.forall₂_map_right_iff]
    exact List.forall₂_same.2 fun pair mem => (mirrors.requests pair mem).deliveries
  · -- Only one sort of party has a stream.
    cases party with
    | future name => exact .none
    | callbacks name => exact .none
    | stream name => exact mirrors.query name rfl

end Mirrored

/-- Two runs in which the same turns concern a party give alike in these, and leave the party seeing
the same, if the ids that it draws are related in turn. -/
theorem run_matched {tally tally' : Tally} {turns turns' : List Turn}
    (matched : Matched config party tally tally' turns turns') (reflexive : ∀ id, R id id) :
    ∀ {a b : Session}, Mirrored config party R tally tally' a b →
      (∀ draws ∈ (party.draws config a.ids.drawn turns).zip
          (party.draws config b.ids.drawn turns'),
        R (a.ids.id draws.1) (b.ids.id draws.2)) →
      List.Forall₂ (Answer.Alike R) (tally.answers config party turns (a.run turns).1)
          (tally'.answers config party turns' (b.run turns').1)
        ∧ Mirrored config party R (tally.run config party turns) (tally'.run config party turns')
          (a.run turns).2 (b.run turns').2 := by
  induction matched with
  | nil => exact fun mirrored _ => ⟨.nil, mirrored⟩
  | @left tally tally' turn turns turns' foreign rest ih =>
    intro a b mirrored related
    -- The party draws nothing in this turn, and goes on to see the same.
    rw [Tally.draws_of_none foreign] at related
    obtain ⟨answers, after⟩ := ih (mirrored.left foreign) (by rwa [ids_step, mirrored.config])
    refine ⟨?_, after⟩
    rw [Session.run, Tally.answers_of_none foreign]
    exact answers
  | @right tally tally' turn turns turns' foreign rest ih =>
    intro a b mirrored related
    obtain ⟨pairs, mirrors, -⟩ := mirrored.mirrors
    rw [Tally.draws_of_none foreign] at related
    obtain ⟨answers, after⟩ := ih (mirrored.right foreign)
      (by rwa [ids_step, mirrors.config, mirrored.config])
    refine ⟨?_, after⟩
    rw [Session.run, Tally.answers_of_none foreign]
    exact answers
  | @own tally tally' turn turn' part turns turns' concerns concerns' rest ih =>
    intro a b mirrored related
    obtain ⟨pairs, mirrors, -⟩ := mirrored.mirrors
    -- The ids that are drawn in this turn are related in turn, and so are all later ones.
    have draws : turn'.2.draws config = turn.2.draws config :=
      (Tally.orders_part concerns').2.trans (Tally.orders_part concerns).2.symm
    rw [Tally.draws_of_some concerns, Tally.draws_of_some concerns', draws,
      List.zip_append (by rw [List.length_range', List.length_range']), zip_range'] at related
    obtain ⟨answer, next⟩ := mirrored.own concerns concerns' reflexive fun place within =>
      related _ (List.mem_append_left _ (mem_paired.2 ⟨place, within, rfl⟩))
    obtain ⟨answers, after⟩ := ih next (by
      rw [ids_step, ids_step, mirrors.config, mirrored.config, draws]
      exact fun pair mem => related pair (List.mem_append_right _ mem))
    refine ⟨?_, after⟩
    rw [Session.run, Session.run, Tally.answers_of_some concerns, Tally.answers_of_some concerns']
    exact .cons answer answers

/-- Nothing is seen of a session in which nothing happened. -/
theorem mirrored_start (config : Config) (party : Party) (R : String → String → Prop)
    (ids ids' : Nat → String) :
    Mirrored config party R .zero .zero (start config ids) (start config ids') := by
  have sound : ∀ ids : Nat → String, (start config ids).Sound := fun _ =>
    ⟨fun _ mem => (by cases mem), fun _ _ => rfl⟩
  refine ⟨rfl, rfl, rfl, [], ⟨rfl, sound ids, sound ids', .nil, .nil, ?_, ?_, ?_⟩, rfl, rfl⟩
  · exact fun _ mem => by cases mem
  · exact fun _ _ => .none
  · exact fun _ _ => .none

/-- Whether an id may stand in one run where another stands in a second one: it is the same, or both
are drawn by the party in turn. -/
def Renamed (ids ids' : List String) (id id' : String) : Prop :=
  id = id' ∨ (id, id') ∈ ids.zip ids'

/-- Take two runs in which the same turns concern a party: its own steps and the replies to its own
requests. Whatever happens in between, and whatever numbers its requests have, it gets the same
answers, its requests reach the engine as the same ones with the same outcomes handed over, and its
stream is in the same state, but for the ids that it drew itself. -/
theorem run_isolated (config : Config) (party : Party) (ids ids' : Nat → String)
    (turns turns' : List Turn)
    (same : Tally.zero.parts config party turns = Tally.zero.parts config party turns') :
    let run := (start config ids).run turns
    let run' := (start config ids').run turns'
    let draws := party.draws config 0 turns
    let draws' := party.draws config 0 turns'
    let R := Renamed (draws.map ids) (draws'.map ids')
    draws.length = draws'.length ∧ draws.Pairwise (· < ·) ∧ draws'.Pairwise (· < ·)
      ∧ List.Forall₂ (Answer.Alike R) (Tally.zero.answers config party turns run.1)
        (Tally.zero.answers config party turns' run'.1)
      ∧ (run.2.view party (Tally.zero.run config party turns).own).Alike R
        (run'.2.view party (Tally.zero.run config party turns').own) := by
  intro run run' draws draws' R
  have related : ∀ pair ∈ draws.zip draws', R (ids pair.1) (ids' pair.2) := by
    intro pair mem
    refine .inr ?_
    rw [List.zip_map]
    exact List.mem_map_of_mem mem
  have matched := matched_of_parts turns same
  obtain ⟨answers, mirrored⟩ := run_matched matched (fun _ => .inl rfl)
    (mirrored_start config party R ids ids') related
  exact ⟨matched.length_draws 0 0, (Tally.pairwise_draws config party turns 0).1,
    (Tally.pairwise_draws config party turns' 0).1, answers, mirrored.view⟩

/-- A caller asks for all datasets and is given something else. -/
def alone : List Turn :=
  [([], .submit "a" ⟨.getAllDatasets, .null, none⟩), ([], .reply 0 (.succeed .unit)),
    ([], .await "a")]

/-- The same, while another request goes out and is given up. -/
def among : List Turn :=
  [([], .dispatch "b" ⟨.getAllLinks, .null, none⟩),
    ([], .submit "a" ⟨.getAllDatasets, .null, none⟩), ([], .reply 0 .release),
    ([], .reply 1 (.succeed .unit)), ([.release], .await "a")]

/-- The caller gets alike in both runs: an error that tells the id of its own request. -/
theorem alone_among :
    let ids (draw : Nat) : String := if draw = 0 then "first" else "second"
    let answers (turns : List Turn) : List Answer :=
      Tally.zero.answers default (.future "a") turns ((start default ids).run turns).1
    let wrong (id : String) : Answer :=
      .outcome (.error (.engine (wrongKindError .getAllDatasets id .unit)))
    Tally.zero.parts default (.future "a") alone = Tally.zero.parts default (.future "a") among
      ∧ answers alone = [.done, .done, wrong "first"]
      ∧ answers among = [.done, .done, wrong "second"]
      ∧ List.Forall₂ (Answer.Alike (Renamed ["first"] ["second"])) (answers alone)
        (answers among) := by
  intro ids answers wrong
  exact ⟨rfl, rfl, rfl, (run_isolated default (.future "a") ids ids alone among rfl).2.2.2.1⟩

end Session

end AnalyticsClient
