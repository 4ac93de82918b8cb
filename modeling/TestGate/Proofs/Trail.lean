
/-!
Following a partial function from node to node. A trail is the list of nodes passed on the way to
one without a successor. Where there is one, it is the only one and no node repeats; a way that
makes as many steps as it has been given nodes has no trail that short. Main statement: either there
is a trail of at most so many nodes, or so many steps can be made, and never both.
-/

namespace TestGate

universe u

variable {ν : Type u}

/-- The nodes from `start` on, each the successor of the one before, up to one that has none. -/
inductive Trail (next? : ν → Option ν) : ν → List ν → Prop where
  | last {node : ν} (ends : next? node = none) : Trail next? node [node]
  | link {node next : ν} {rest : List ν} (leads : next? node = some next)
      (trail : Trail next? next rest) : Trail next? node (node :: rest)

/-- Whether this many steps can be made. -/
def CanStep (next? : ν → Option ν) : Nat → ν → Prop
  | 0, _ => True
  | count + 1, node => ∃ next, next? node = some next ∧ CanStep next? count next

/-- The node that this many steps lead to. -/
def stepsTo? (next? : ν → Option ν) : Nat → ν → Option ν
  | 0, node => some node
  | count + 1, node => (next? node).bind (stepsTo? next? count)

/-- Whether some steps lead from one node to another. -/
inductive Reaches (next? : ν → Option ν) : ν → ν → Prop where
  | here (node : ν) : Reaches next? node node
  | step {node next target : ν} (leads : next? node = some next)
      (onward : Reaches next? next target) : Reaches next? node target

namespace Trail

variable {next? other? : ν → Option ν} {node : ν} {nodes : List ν}

/-- Where a node leads on, its trail goes on with a trail of its successor. -/
theorem split
    {next : ν}
    (trail : Trail next? node nodes) (leads : next? node = some next) :
    ∃ rest, nodes = node :: rest ∧ Trail next? next rest := by
  cases trail with
  | last ends => simp [ends] at leads
  | link otherLeads rest =>
    rw [leads, Option.some.injEq] at otherLeads
    exact ⟨_, rfl, otherLeads ▸ rest⟩

theorem unique
    {others : List ν}
    (trail : Trail next? node nodes) (other : Trail next? node others) :
    nodes = others := by
  induction trail generalizing others with
  | last ends =>
    cases other with
    | last => rfl
    | link leads => simp [ends] at leads
  | link leads _ inductionHypothesis =>
    obtain ⟨rest, rfl, otherTrail⟩ := other.split leads
    rw [inductionHypothesis otherTrail]

theorem ne_nil
    (trail : Trail next? node nodes) :
    nodes ≠ [] := by
  cases trail <;> simp

theorem start_mem
    (trail : Trail next? node nodes) :
    node ∈ nodes := by
  cases trail <;> simp

/-- From each node on it a trail goes on to the same end. -/
theorem onward
    {passed : ν}
    (trail : Trail next? node nodes) (member : passed ∈ nodes) :
    ∃ rest, Trail next? passed rest ∧ rest <:+ nodes := by
  induction trail with
  | last ends =>
    rw [List.mem_singleton] at member
    subst member
    exact ⟨_, .last ends, List.suffix_refl _⟩
  | @link node next rest leads trail inductionHypothesis =>
    rcases List.mem_cons.mp member with rfl | inRest
    · exact ⟨_, .link leads trail, List.suffix_refl _⟩
    · obtain ⟨further, furtherTrail, isSuffix⟩ := inductionHypothesis inRest
      exact ⟨further, furtherTrail, isSuffix.trans (List.suffix_cons node rest)⟩

/-- A trail that came back to a node would go on from it for ever. -/
theorem nodup
    (trail : Trail next? node nodes) :
    nodes.Nodup := by
  induction trail with
  | last => simp
  | @link node next rest leads trail inductionHypothesis =>
    refine List.nodup_cons.mpr ⟨fun back => ?_, inductionHypothesis⟩
    obtain ⟨again, againTrail, isSuffix⟩ := trail.onward back
    have same : again = node :: rest := againTrail.unique (.link leads trail)
    have shorter := isSuffix.length_le
    rw [same, List.length_cons] at shorter
    omega

theorem congr
    (trail : Trail next? node nodes)
    (agree : ∀ passed ∈ nodes, other? passed = next? passed) :
    Trail other? node nodes := by
  induction trail with
  | @last node ends =>
    exact .last ((agree node (List.mem_singleton.mpr rfl)).trans ends)
  | @link node next rest leads _ inductionHypothesis =>
    exact .link ((agree node List.mem_cons_self).trans leads)
      (inductionHypothesis fun passed member => agree passed (List.mem_cons_of_mem _ member))

theorem ends_at_last
    {last : ν}
    (trail : Trail next? node nodes) (isLast : nodes.getLast? = some last) :
    next? last = none := by
  induction trail with
  | last ends =>
    rw [List.getLast?_singleton, Option.some.injEq] at isLast
    rw [← isLast, ends]
  | link _ trail inductionHypothesis =>
    rw [List.getLast?_cons_of_ne_nil trail.ne_nil] at isLast
    exact inductionHypothesis isLast

theorem exists_last
    (trail : Trail next? node nodes) :
    ∃ last, nodes.getLast? = some last :=
  ⟨_, List.getLast?_eq_some_getLast trail.ne_nil⟩

end Trail

namespace CanStep

variable {next? other? : ν → Option ν} {node : ν}

theorem not_trail
    {count : Nat} {nodes : List ν}
    (steps : CanStep next? count node) (trail : Trail next? node nodes) :
    count < nodes.length := by
  induction trail generalizing count with
  | last ends =>
    cases count with
    | zero => simp
    | succ count =>
      obtain ⟨next, leads, _⟩ := steps
      simp [ends] at leads
  | link leads _ inductionHypothesis =>
    cases count with
    | zero => simp
    | succ count =>
      obtain ⟨next, otherLeads, onward⟩ := steps
      rw [leads] at otherLeads
      cases otherLeads
      have bound := inductionHypothesis onward
      rw [List.length_cons]
      omega

/-- Either the trail is short, or the way goes on beyond. -/
theorem or_trail
    (next? : ν → Option ν) (count : Nat) (node : ν) :
    CanStep next? count node ∨ ∃ nodes, Trail next? node nodes ∧ nodes.length ≤ count := by
  induction count generalizing node with
  | zero => exact Or.inl trivial
  | succ count inductionHypothesis =>
    cases leads : next? node with
    | none => exact Or.inr ⟨[node], .last leads, by simp⟩
    | some next =>
      rcases inductionHypothesis next with steps | ⟨nodes, trail, short⟩
      · exact Or.inl ⟨next, leads, steps⟩
      · exact Or.inr ⟨node :: nodes, .link leads trail, by simpa using short⟩

theorem not_iff
    (next? : ν → Option ν) (count : Nat) (node : ν) :
    ¬ CanStep next? count node ↔ ∃ nodes, Trail next? node nodes ∧ nodes.length ≤ count := by
  constructor
  · exact (or_trail next? count node).resolve_left
  · rintro ⟨nodes, trail, short⟩ steps
    have long := steps.not_trail trail
    omega

theorem mono
    {fewer count : Nat}
    (steps : CanStep next? count node) (bound : fewer ≤ count) :
    CanStep next? fewer node := by
  induction fewer generalizing count node with
  | zero => trivial
  | succ fewer inductionHypothesis =>
    cases count with
    | zero => omega
    | succ count =>
      obtain ⟨next, leads, onward⟩ := steps
      exact ⟨next, leads, inductionHypothesis onward (by omega)⟩

/-- Steps can still be made when more nodes have a successor. -/
theorem grow
    {count : Nat}
    (kept : ∀ node next, next? node = some next → other? node = some next)
    (steps : CanStep next? count node) :
    CanStep other? count node := by
  induction count generalizing node with
  | zero => trivial
  | succ count inductionHypothesis =>
    obtain ⟨next, leads, onward⟩ := steps
    exact ⟨next, kept node next leads, inductionHypothesis onward⟩

theorem of_reaches
    {count : Nat} {target : ν}
    (way : Reaches next? node target) (steps : CanStep next? count target) :
    CanStep next? count node := by
  induction way with
  | here => exact steps
  | step leads _ inductionHypothesis =>
    have further : CanStep next? (count + 1) _ := ⟨_, leads, inductionHypothesis steps⟩
    exact further.mono (Nat.le_succ count)

end CanStep

section Steps

variable {next? other? : ν → Option ν} {node target : ν}

theorem stepsTo?_succ
    {next : ν}
    (leads : next? node = some next) (count : Nat) :
    stepsTo? next? (count + 1) node = stepsTo? next? count next := by
  rw [stepsTo?, leads, Option.bind_some]

theorem stepsTo?_grow
    {count : Nat}
    (kept : ∀ node next, next? node = some next → other? node = some next)
    (reached : stepsTo? next? count node = some target) :
    stepsTo? other? count node = some target := by
  induction count generalizing node with
  | zero => exact reached
  | succ count inductionHypothesis =>
    obtain ⟨next, leads, onward⟩ := Option.bind_eq_some_iff.mp reached
    rw [stepsTo?_succ (kept node next leads)]
    exact inductionHypothesis onward

/-- Where a node goes on, one more step can be made. -/
theorem CanStep.of_stepsTo?
    {count : Nat} {beyond : ν}
    (reached : stepsTo? next? count node = some target) (leads : next? target = some beyond) :
    CanStep next? (count + 1) node := by
  induction count generalizing node with
  | zero =>
    cases reached
    exact ⟨beyond, leads, trivial⟩
  | succ count inductionHypothesis =>
    obtain ⟨next, first, onward⟩ := Option.bind_eq_some_iff.mp reached
    exact ⟨next, first, inductionHypothesis onward⟩

end Steps

theorem Reaches.grow
    {next? other? : ν → Option ν} {node target : ν}
    (kept : ∀ node next, next? node = some next → other? node = some next)
    (way : Reaches next? node target) :
    Reaches other? node target := by
  induction way with
  | here node => exact .here node
  | step leads _ inductionHypothesis => exact .step (kept _ _ leads) inductionHypothesis

theorem Reaches.trans
    {next? : ν → Option ν} {node middle target : ν}
    (first : Reaches next? node middle) (second : Reaches next? middle target) :
    Reaches next? node target := by
  induction first with
  | here => exact second
  | step leads _ inductionHypothesis => exact .step leads (inductionHypothesis second)

end TestGate
