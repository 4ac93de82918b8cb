import TestGate.Bugzilla
import TestGate.Jira.Search
import TestGate.Proofs.FormEncoding

/-!
What the requests tell about the ids that are asked for. The ids are joined by commas as they are, so
that an id with a comma in it looks like several. Main statement: two requests are the same exactly
when the texts between all commas are the same, which for ids without commas are the ids.
-/

namespace TestGate

open Text Http Issue

/-! ## Ids joined by commas -/

/-- The texts between the commas of a list of ids: what a tracker finds in the joined list. -/
def commaParts (ids : List String) : List (List Char) :=
  ids.flatMap fun id => splitWhere (· == ',') id.toList

theorem splitWhere_joined
    {ids : List String} (nonempty : ids ≠ []) :
    splitWhere (· == ',') (",".intercalate ids).toList = commaParts ids := by
  have someChars : ids.map String.toList ≠ [] := mt List.map_eq_nil_iff.mp nonempty
  have joined : splitWhere (· == ',') ([','].intercalate (ids.map String.toList)) =
      commaParts ids := by
    rw [splitWhere_intercalate someChars, List.flatMap_map, commaParts]
  rw [String.toList_intercalate]
  exact joined

theorem joined_inj
    {left right : List String} (leftNonempty : left ≠ []) (rightNonempty : right ≠ []) :
    ",".intercalate left = ",".intercalate right ↔ commaParts left = commaParts right := by
  rw [← splitWhere_joined leftNonempty, ← splitWhere_joined rightNonempty]
  refine ⟨fun same => by rw [same], fun same => String.toList_inj.mp ?_⟩
  rw [← intercalate_splitWhere ',' (",".intercalate left).toList, same, intercalate_splitWhere]

theorem commaParts_of_no_comma
    {ids : List String} (noComma : ∀ id ∈ ids, ',' ∉ id.toList) :
    commaParts ids = ids.map String.toList := by
  rw [commaParts, List.map_eq_flatMap]
  exact List.flatMap_congr fun id member => splitWhere_of_not_mem (noComma id member)

theorem commaParts_inj
    {left right : List String} (leftPlain : ∀ id ∈ left, ',' ∉ id.toList)
    (rightPlain : ∀ id ∈ right, ',' ∉ id.toList) :
    commaParts left = commaParts right ↔ left = right := by
  rw [commaParts_of_no_comma leftPlain, commaParts_of_no_comma rightPlain]
  exact List.map_inj_right fun _ _ => String.toList_inj.mp

theorem Bugzilla.idList_inj
    {left right : List String} (leftNonempty : left ≠ []) (rightNonempty : right ≠ []) :
    Bugzilla.idList left = Bugzilla.idList right ↔ commaParts left = commaParts right :=
  joined_inj leftNonempty rightNonempty

theorem Jira.keyQuery_inj
    {left right : List String} (leftNonempty : left ≠ []) (rightNonempty : right ≠ []) :
    Jira.keyQuery left = Jira.keyQuery right ↔ commaParts left = commaParts right := by
  rw [Jira.keyQuery, Jira.keyQuery, String.append_left_inj, String.append_right_inj]
  exact joined_inj leftNonempty rightNonempty

/-! ## Requests -/

theorem Text.natText_inj
    {left right : Nat} :
    natText left = natText right ↔ left = right := by
  refine ⟨fun same => ?_, congrArg natText⟩
  have digits : natChars left = natChars right := String.ofList_inj.mp same
  rw [← digitsValue_natChars left, digits, digitsValue_natChars]

theorem Http.Url.target_withParameters_inj
    (url : Url) {left right : String} :
    (url.withParameters left).target = (url.withParameters right).target ↔ left = right := by
  rw [target, target, withParameters, withParameters, String.append_right_inj]
  split <;> simp

/-- A request tells its parameters. -/
theorem Rest.Endpoint.request_inj
    (endpoint : Rest.Endpoint) {left right : List (String × String)} (leftNonempty : left ≠ [])
    (rightNonempty : right ≠ []) :
    endpoint.request left = endpoint.request right ↔ left = right := by
  rw [request, request, Request.mk.injEq, and_iff_left rfl, Url.target_withParameters_inj,
    formPairs_inj leftNonempty rightNonempty]

theorem Bugzilla.request_inj
    (endpoint : Rest.Endpoint) {left right : List String} (leftNonempty : left ≠ [])
    (rightNonempty : right ≠ []) :
    endpoint.request (Bugzilla.parameters left) = endpoint.request (Bugzilla.parameters right) ↔
      commaParts left = commaParts right := by
  rw [Bugzilla.parameters, Bugzilla.parameters,
    endpoint.request_inj (List.cons_ne_nil _ _) (List.cons_ne_nil _ _),
    ← Bugzilla.idList_inj leftNonempty rightNonempty]
  simp

theorem Jira.request_inj
    (endpoint : Rest.Endpoint) {left right : List String} (leftNonempty : left ≠ [])
    (rightNonempty : right ≠ []) (offset other : Nat) :
    endpoint.request (Jira.parameters left offset) =
        endpoint.request (Jira.parameters right other) ↔
      commaParts left = commaParts right ∧ offset = other ∧ left.length = right.length := by
  rw [Jira.parameters, Jira.parameters,
    endpoint.request_inj (List.cons_ne_nil _ _) (List.cons_ne_nil _ _),
    ← Jira.keyQuery_inj leftNonempty rightNonempty]
  simp [natText_inj]

/-! ## Ids that are asked for -/

/-- The requests for two lists of ids are the same exactly when the texts between their commas are,
in Jira for the same page and as many ids. So a request tells its ids if none of them holds a comma.
-/
theorem requests_tell_comma_parts
    {left right : List String} (leftNonempty : left ≠ []) (rightNonempty : right ≠ []) :
    (Jira.keyQuery left = Jira.keyQuery right ↔ commaParts left = commaParts right) ∧
    (Bugzilla.idList left = Bugzilla.idList right ↔ commaParts left = commaParts right) ∧
    (∀ endpoint : Rest.Endpoint,
      (endpoint.request (Bugzilla.parameters left) =
          endpoint.request (Bugzilla.parameters right) ↔
        commaParts left = commaParts right) ∧
      ∀ offset other,
        endpoint.request (Jira.parameters left offset) =
            endpoint.request (Jira.parameters right other) ↔
          commaParts left = commaParts right ∧ offset = other ∧ left.length = right.length) ∧
    ((∀ id ∈ left ++ right, ',' ∉ id.toList) →
      (commaParts left = commaParts right ↔ left = right)) := by
  refine ⟨Jira.keyQuery_inj leftNonempty rightNonempty,
    Bugzilla.idList_inj leftNonempty rightNonempty, fun endpoint => ⟨?_, fun offset other => ?_⟩,
    fun noComma => ?_⟩
  · exact Bugzilla.request_inj endpoint leftNonempty rightNonempty
  · exact Jira.request_inj endpoint leftNonempty rightNonempty offset other
  · obtain ⟨leftPlain, rightPlain⟩ := List.forall_mem_append.mp noComma
    exact commaParts_inj leftPlain rightPlain

/-- Two keys without commas are told from a single one. -/
theorem requests_tell_comma_parts_twoKeys :
    Jira.keyQuery ["SAT-1", "SAT-2"] ≠ Jira.keyQuery ["SAT-1"] ∧
    Bugzilla.idList ["SAT-1", "SAT-2"] ≠ Bugzilla.idList ["SAT-1"] := by
  obtain ⟨queries, lists, _, ofPlain⟩ := requests_tell_comma_parts
    (show ["SAT-1", "SAT-2"] ≠ [] by decide) (show ["SAT-1"] ≠ [] by decide)
  have different := mt (ofPlain (by decide)).mp (by decide)
  exact ⟨mt queries.mp different, mt lists.mp different⟩

/-- Two lists in order, of ids that references can have, that are asked for by the same requests. -/
theorem requests_same_for_ids_with_commas :
    let left := ["A", "B,C"]
    let right := ["A,B", "C"]
    (left.Pairwise (· < ·) ∧ right.Pairwise (· < ·) ∧ left ≠ [] ∧ right ≠ [] ∧ left ≠ right) ∧
    (∀ id ∈ left ++ right, Reference.parse? ("JR:" ++ id) = some ⟨.jira, id⟩ ∧
      Reference.parse? ("BZ:" ++ id) = some ⟨.bugzilla, id⟩) ∧
    Jira.keyQuery left = Jira.keyQuery right ∧
    Bugzilla.idList left = Bugzilla.idList right ∧
    Bugzilla.parameters left = Bugzilla.parameters right ∧
    Jira.parameters left 0 = Jira.parameters right 0 := by
  decide

end TestGate
