import TestGate.Resolver

/-!
What trackers have said in the course of a run, whatever they are like. The journal tells which
calls were made; made again from the same memory, they give the same answers. Main statement:
whatever a call delivers was answered by the tracker, or is a fallback record for an issue that was
asked for.
-/

namespace TestGate

open Issue

variable {σ : Type}

/-! ## Answers -/

/-- The records in a reply; an error has none. -/
def answersIn (tracker : Tracker) (outcome : Except String (List Record)) :
    List (Tracker × Record) :=
  match outcome with
  | .ok records => records.map fun record => (tracker, record)
  | .error _ => []

/-- What the trackers answer to the calls among some events, and their memory after these. -/
def answersTo (sources : IssueSources σ) : List Event → σ → List (Tracker × Record) × σ
  | [], memory => ([], memory)
  | .asked tracker ids :: events, memory =>
    let (reply, memory) := (sources tracker).fetch ids memory
    let (later, memory) := answersTo sources events memory
    (answersIn tracker reply.outcome ++ later, memory)
  | .waited _ :: events, memory => answersTo sources events memory
  | .noted _ :: events, memory => answersTo sources events memory

theorem answersTo_append
    (sources : IssueSources σ) (front back : List Event) (memory : σ) :
    answersTo sources (front ++ back) memory =
      ((answersTo sources front memory).1 ++
          (answersTo sources back (answersTo sources front memory).2).1,
        (answersTo sources back (answersTo sources front memory).2).2) := by
  induction front generalizing memory with
  | nil => simp [answersTo]
  | cons event front inductionHypothesis =>
    cases event with
    | asked tracker ids =>
      simp only [List.cons_append, answersTo, inductionHypothesis, List.append_assoc]
    | waited seconds => simpa only [List.cons_append, answersTo] using inductionHypothesis memory
    | noted notice => simpa only [List.cons_append, answersTo] using inductionHypothesis memory

theorem answersTo_noted
    (sources : IssueSources σ) (notices : List Notice) (memory : σ) :
    answersTo sources (notices.map .noted) memory = ([], memory) := by
  induction notices with
  | nil => simp [answersTo]
  | cons notice rest inductionHypothesis =>
    simpa only [List.map_cons, answersTo] using inductionHypothesis

/-- What holds of all that the trackers ever say holds of their answers in a run. -/
theorem forall_answersTo
    {sources : IssueSources σ} {Fine : Tracker → Record → Prop}
    (fineReplies : ∀ tracker ids memory records,
      ((sources tracker).fetch ids memory).1.outcome = .ok records →
        ∀ record ∈ records, Fine tracker record)
    (events : List Event) (memory : σ) :
    ∀ answer ∈ (answersTo sources events memory).1, Fine answer.1 answer.2 := by
  induction events generalizing memory with
  | nil => simp [answersTo]
  | cons event events inductionHypothesis =>
    cases event with
    | waited seconds => exact inductionHypothesis memory
    | noted notice => exact inductionHypothesis memory
    | asked tracker ids =>
      intro answer member
      rcases List.mem_append.mp member with now | later
      · cases outcome : ((sources tracker).fetch ids memory).1.outcome with
        | error message =>
          rw [outcome] at now
          cases now
        | ok records =>
          rw [outcome] at now
          obtain ⟨record, inRecords, rfl⟩ := List.mem_map.mp now
          exact fineReplies tracker ids memory records outcome record inRecords
      · exact inductionHypothesis _ answer later

namespace World

/-- The answers of the trackers between two states of the world. -/
def answersSince (sources : IssueSources σ) (start after : World σ) : List (Tracker × Record) :=
  (answersTo sources (after.journal.drop start.journal.length) start.memory).1

/-- Whether the calls in between lead from one state of the world to another, with these answers. -/
def Leads (sources : IssueSources σ) (before : World σ) (answers : List (Tracker × Record))
    (after : World σ) : Prop :=
  ∃ events, after.journal = before.journal ++ events ∧
    answersTo sources events before.memory = (answers, after.memory)

namespace Leads

variable {sources : IssueSources σ}

theorem refl
    (world : World σ) :
    Leads sources world [] world :=
  ⟨[], by simp, rfl⟩

theorem trans
    {first second third : World σ} {early late : List (Tracker × Record)}
    (front : Leads sources first early second) (back : Leads sources second late third) :
    Leads sources first (early ++ late) third := by
  obtain ⟨events, journal, answered⟩ := front
  obtain ⟨further, furtherJournal, furtherAnswered⟩ := back
  refine ⟨events ++ further, ?_, ?_⟩
  · rw [furtherJournal, journal, List.append_assoc]
  · simp [answersTo_append, answered, furtherAnswered]

theorem noteAll
    (sources : IssueSources σ) (world : World σ) (notices : List Notice) :
    Leads sources world [] (world.record (notices.map .noted)) :=
  ⟨notices.map .noted, rfl, answersTo_noted sources notices world.memory⟩

theorem note
    (world : World σ) (notice : Notice) :
    Leads sources world [] (world.note notice) :=
  noteAll sources world [notice]

theorem ask
    (world : World σ) (tracker : Tracker) (ids : List String) :
    Leads sources world (answersIn tracker (world.ask (sources tracker) tracker ids).1)
      (world.ask (sources tracker) tracker ids).2 := by
  refine ⟨_, rfl, ?_⟩
  simp [answersTo, answersTo_noted, World.ask, World.record]

/-- The journal tells which answers these are. -/
theorem answersSince_eq
    {start after : World σ} {answers : List (Tracker × Record)}
    (leads : Leads sources start answers after) :
    answersSince sources start after = answers := by
  obtain ⟨events, journal, answered⟩ := leads
  have sinceStart : after.journal.drop start.journal.length = events := by
    rw [journal, List.drop_left]
  rw [answersSince, sinceStart, answered]

end Leads

/-! ## What follows from the answers -/

/-- Whether one state of the world leads to another, and what is given before holds a result
afterwards as long as all answers in between are fine. -/
def Ensures (sources : IssueSources σ) (Fine : Tracker → Record → Prop) (before after : World σ)
    (given result : Prop) : Prop :=
  ∃ answers, Leads sources before answers after ∧
    ((∀ answer ∈ answers, Fine answer.1 answer.2) → given → result)

namespace Ensures

variable {sources : IssueSources σ} {Fine : Tracker → Record → Prop} {before after : World σ}
variable {given result : Prop}

theorem of_leads
    (leads : Leads sources before [] after) (keeps : given → result) :
    Ensures sources Fine before after given result :=
  ⟨[], leads, fun _ => keeps⟩

theorem refl
    (world : World σ) (keeps : given → result) :
    Ensures sources Fine world world given result :=
  .of_leads (.refl world) keeps

theorem trans
    {middle : World σ} {between : Prop}
    (early : Ensures sources Fine before middle given between)
    (late : Ensures sources Fine middle after between result) :
    Ensures sources Fine before after given result := by
  obtain ⟨answers, leads, holds⟩ := early
  obtain ⟨further, leadsOn, holdsOn⟩ := late
  refine ⟨answers ++ further, leads.trans leadsOn, fun allFine isGiven => ?_⟩
  have earlyFine : ∀ answer ∈ answers, Fine answer.1 answer.2 := fun answer member =>
    allFine answer (List.mem_append_left _ member)
  have lateFine : ∀ answer ∈ further, Fine answer.1 answer.2 := fun answer member =>
    allFine answer (List.mem_append_right _ member)
  exact holdsOn lateFine (holds earlyFine isGiven)

/-- What was given before is still known afterwards. -/
theorem imp
    {strongerGiven weakerResult : Prop}
    (ensures : Ensures sources Fine before after given result)
    (gives : strongerGiven → given) (follows : strongerGiven → result → weakerResult) :
    Ensures sources Fine before after strongerGiven weakerResult := by
  obtain ⟨answers, leads, holds⟩ := ensures
  exact ⟨answers, leads, fun allFine isGiven => follows isGiven (holds allFine (gives isGiven))⟩

theorem holds
    (ensures : Ensures sources Fine before after given result)
    (allFine : ∀ answer ∈ answersSince sources before after, Fine answer.1 answer.2)
    (isGiven : given) :
    result := by
  obtain ⟨answers, leads, holds⟩ := ensures
  rw [leads.answersSince_eq] at allFine
  exact holds allFine isGiven

end Ensures

end World

/-! ## What calls deliver -/

variable (sources : IssueSources σ) (Fine : Tracker → Record → Prop)

/-- A record that is fine, or that stands in for an issue asked for. -/
def Delivered (Fine : Tracker → Record → Prop) (tracker : Tracker) (ids : List String)
    (record : Record) : Prop :=
  Fine tracker record ∨ ∃ id ∈ ids, ∃ reason, record = Record.fallback id reason

theorem ask_ensures
    (tracker : Tracker) (ids : List String) (world : World σ) :
    World.Ensures sources Fine world (world.ask (sources tracker) tracker ids).2 True
      (∀ records, (world.ask (sources tracker) tracker ids).1 = .ok records →
        ∀ record ∈ records, Fine tracker record) := by
  refine ⟨_, .ask world tracker ids, fun allFine _ records isOk record member => ?_⟩
  apply allFine (tracker, record)
  rw [isOk, answersIn]
  exact List.mem_map_of_mem member

theorem attemptFetch_ensures
    (tracker : Tracker) (policy : RetryPolicy) (ids : List String) (more attempt : Nat)
    (world : World σ) :
    World.Ensures sources Fine world
      (attemptFetch (sources tracker) tracker policy ids more attempt world).2 True
      (∀ records,
        (attemptFetch (sources tracker) tracker policy ids more attempt world).1 = .ok records →
          ∀ record ∈ records, Fine tracker record) := by
  induction more generalizing attempt world with
  | zero => exact ask_ensures sources Fine tracker ids world
  | succ more inductionHypothesis =>
    have asked := ask_ensures sources Fine tracker ids world
    rw [attemptFetch]
    revert asked
    generalize world.ask (sources tracker) tracker ids = reply
    obtain ⟨outcome, after⟩ := reply
    intro asked
    cases outcome with
    | ok records => exact asked
    | error error =>
      -- a failed attempt leaves a notice and a wait, and no record
      have waited : World.Leads sources after [] (after.record
          [.noted (.retrying tracker attempt policy.attempts error policy.delay),
            .waited policy.delay]) :=
        ⟨_, rfl, rfl⟩
      have idle := asked.trans (.of_leads waited fun _ => trivial)
      exact idle.trans (inductionHypothesis (attempt + 1) _)

theorem fetchRemote_ensures
    (tracker : Tracker) (ids : List String) (run : Run σ) :
    World.Ensures sources Fine run.world (run.fetchRemote sources tracker ids).2.world True
      (∀ record ∈ (run.fetchRemote sources tracker ids).1, Delivered Fine tracker ids record) := by
  have standIns : ∀ reason, ∀ record ∈ ids.map fun id => Record.fallback id reason,
      Delivered Fine tracker ids record := by
    intro reason record member
    obtain ⟨id, inIds, rfl⟩ := List.mem_map.mp member
    exact Or.inr ⟨id, inIds, reason, rfl⟩
  by_cases allowed : (sources tracker).hasCredentials = true
  · have called : World.Leads sources run.world [] (run.note (.calling tracker ids)).world :=
      .note run.world _
    have idle : World.Ensures sources Fine run.world (run.note (.calling tracker ids)).world True
        True :=
      .of_leads called id
    have fetched := idle.trans <|
      attemptFetch_ensures sources Fine tracker run.session.policy ids
        (run.session.policy.attempts - 1) 1 (run.note (.calling tracker ids)).world
    simp only [Run.fetchRemote, allowed, Bool.not_true, Bool.false_eq_true, if_false]
    revert fetched
    rw [← fetchWithRetry]
    rw [show (run.note (.calling tracker ids)).session.policy = run.session.policy from rfl]
    generalize fetchWithRetry (sources tracker) tracker run.session.policy ids
      (run.note (.calling tracker ids)).world = reply
    obtain ⟨outcome, after⟩ := reply
    intro fetched
    cases outcome with
    | error error =>
      exact fetched.trans (.of_leads (.note after _) fun _ => standIns error)
    | ok records =>
      have reported : World.Leads sources after [] (after.record
          ((Run.unanswered records ids).map fun id => .noted (.notFound tracker id))) := by
        have noted := World.Leads.noteAll sources after
          ((Run.unanswered records ids).map (.notFound tracker))
        simpa only [List.map_map, Function.comp_def] using noted
      refine fetched.trans (.of_leads reported fun allFine record member => ?_)
      rcases List.mem_append.mp member with answered | standsIn
      · exact Or.inl (allFine records rfl record answered)
      · obtain ⟨id, missing, rfl⟩ := List.mem_map.mp standsIn
        exact Or.inr ⟨id, (List.mem_filter.mp missing).1, "not found in tracker", rfl⟩
  · simp only [Run.fetchRemote, allowed, Bool.not_false, if_true]
    exact .of_leads (.note run.world _) fun _ => standIns "no API key configured"

end TestGate
