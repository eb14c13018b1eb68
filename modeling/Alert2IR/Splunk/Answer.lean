import Alert2IR.Splunk.Client

/-!
# The gateway's answer to an accepted finding

The status and the body that a delivery result becomes.
-/

namespace Alert2IR

namespace Splunk

/-- An HTTP response as the sender's transport hands it over. -/
structure HttpResponse where
  status : Nat
  body : List UInt8
deriving DecidableEq

/-- `_adapter_status`. -/
def adapterStatus (result : Alert2IRDeliveryResult) : Nat :=
  match result.classification with
  | .completed => 200
  | .accepted => 202
  | .permanentFailure =>
    match result.upstreamStatus with
    | some status => if status = 400 ∨ status = 409 ∨ status = 422 then status else 502
    | none => 502
  | .durableFailure => 500
  | .transientFailure =>
    if result.errorCode = some "upstream_timeout" then 504
    else if result.upstreamStatus = some 503 then 503
    else 502

/-- The members of `result.model_dump(mode="json")`. -/
def resultMembers (result : Alert2IRDeliveryResult) : List (String × Option Json) :=
  [("classification", some (.str result.classification.value)),
    ("upstream_status", result.upstreamStatus.map fun status : Nat => Json.num status),
    ("processing_id", result.processingId.map fun id => .str (uuidText id)),
    ("state", result.state.map fun state => .str state.value),
    ("status_url", result.statusUrl.map .str),
    ("replayed", some (.bool result.replayed)),
    ("decision_outcome", result.decisionOutcome.map fun outcome => .str outcome.value),
    ("error_code", result.errorCode.map .str),
    ("retryable", some (.bool result.retryable)),
    ("acceptance_unknown", some (.bool result.acceptanceUnknown))]

/-- `result.model_dump(mode="json", exclude_none=True)`. -/
def resultDocument (result : Alert2IRDeliveryResult) :
    Json := .obj (Json.present (resultMembers result))

/-- The `JSONResponse` that ends `submit_finding`. -/
def answer (result : Alert2IRDeliveryResult) : HttpResponse :=
  ⟨adapterStatus result, (resultDocument result).bytes⟩

/-! ## The body can be read -/

theorem keys_resultMembers_nodup (result : Alert2IRDeliveryResult) :
    ((resultMembers result).map Prod.fst).Nodup := by
  have hkeys : (resultMembers result).map Prod.fst = ["classification", "upstream_status",
      "processing_id", "state", "status_url", "replayed", "decision_outcome", "error_code",
      "retryable", "acceptance_unknown"] := rfl
  rw [hkeys]
  decide

theorem lookup_resultDocument (result : Alert2IRDeliveryResult) (key : String) :
    (Json.present (resultMembers result)).lookup key =
      ((resultMembers result).lookup key).join :=
  Json.lookup_present (keys_resultMembers_nodup result)

theorem plain_resultDocument (result : Alert2IRDeliveryResult) :
    (resultDocument result).plain = true := by
  apply Json.plain_obj_iff.mpr
  constructor
  · exact (Json.keys_present_sublist _).nodup (keys_resultMembers_nodup result)
  · intro member hmember
    obtain ⟨⟨key, value⟩, hvalue, hpresent⟩ := List.mem_filterMap.mp hmember
    obtain ⟨json, rfl, rfl⟩ := Option.map_eq_some_iff.mp hpresent
    simp only [resultMembers, List.mem_cons, Prod.mk.injEq, List.not_mem_nil, or_false] at hvalue
    rcases hvalue with ⟨-, h⟩ | ⟨-, h⟩ | ⟨-, h⟩ | ⟨-, h⟩ | ⟨-, h⟩ | ⟨-, h⟩ | ⟨-, h⟩ | ⟨-, h⟩ |
      ⟨-, h⟩ | ⟨-, h⟩
    case inr.inl =>
      obtain ⟨status, hstatus, rfl⟩ := Option.map_eq_some_iff.mp h.symm
      have hbound := (result.upstreamStatus_bounds hstatus).2
      exact Json.plain_num 3 (by omega) (by decide) (by decide)
    all_goals
      first
        | (obtain rfl := Option.some.inj h; rfl)
        | (obtain ⟨_, -, rfl⟩ := Option.map_eq_some_iff.mp h.symm; rfl)

/-- A result is flat. -/
theorem nesting_resultDocument (result : Alert2IRDeliveryResult) :
    (resultDocument result).nesting ≤ Json.nestingLimit := by
  refine le_trans (Json.nesting_obj_le_iff.mpr ?_) (by decide : 1 ≤ Json.nestingLimit)
  intro member hmember
  obtain ⟨⟨key, value⟩, hvalue, hpresent⟩ := List.mem_filterMap.mp hmember
  obtain ⟨json, rfl, rfl⟩ := Option.map_eq_some_iff.mp hpresent
  simp only [resultMembers, List.mem_cons, Prod.mk.injEq, List.not_mem_nil, or_false] at hvalue
  rcases hvalue with ⟨-, h⟩ | ⟨-, h⟩ | ⟨-, h⟩ | ⟨-, h⟩ | ⟨-, h⟩ | ⟨-, h⟩ | ⟨-, h⟩ | ⟨-, h⟩ |
    ⟨-, h⟩ | ⟨-, h⟩
  all_goals
    first
      | (obtain rfl := Option.some.inj h; exact Nat.le_refl 0)
      | (obtain ⟨_, -, rfl⟩ := Option.map_eq_some_iff.mp h.symm; exact Nat.le_refl 0)

/-- How much of a text a member can take, none where it is left out. -/
def memberLengths (members : List (String × Option Json)) : List Nat :=
  members.map fun m => m.2.elim 0 fun value => Json.memberLength (m.1, value)

theorem sum_present (members : List (String × Option Json)) :
    ((Json.present members).map Json.memberLength).sum = (memberLengths members).sum := by
  induction members with
  | nil => rfl
  | cons member members ih =>
    obtain ⟨key, _ | value⟩ := member
    · rw [Json.present_cons_none, ih, memberLengths, memberLengths, List.map_cons, List.sum_cons]
      exact (Nat.zero_add _).symm
    · rw [Json.present_cons_some, List.map_cons, List.sum_cons, ih]
      rfl

theorem memberLength_str_le {key s : String} {bound : Nat} (h : s.length ≤ bound) :
    Json.memberLength (key, .str s) ≤ 6 * key.length + 6 * bound + 6 := by
  have hkey := Json.length_quoted_le key
  have hs := Json.length_quoted_le s
  show (Json.quoted key).length + (Json.quoted s).length + 2 ≤ _
  omega

theorem memberLength_bool_le (key : String) (b : Bool) :
    Json.memberLength (key, .bool b) ≤ 6 * key.length + 9 := by
  have hkey := Json.length_quoted_le key
  cases b
  · show (Json.quoted key).length + 5 + 2 ≤ _
    omega
  · show (Json.quoted key).length + 4 + 2 ≤ _
    omega

theorem elim_le {α : Type} {value : Option α} {f : α → Nat} {bound : Nat}
    (h : ∀ a, value = some a → f a ≤ bound) : value.elim 0 f ≤ bound := by
  cases value with
  | none => exact Nat.zero_le bound
  | some a => exact h a rfl

theorem length_uuidText (id : UUID) : (uuidText id).length = 36 := by
  rw [uuidText, String.length_ofList]
  rfl

theorem length_number_le {status : Nat} (h : status ≤ 599) :
    (Json.number (status : Int)).length ≤ 3 :=
  (Nat.length_toDigits_le_iff (b := 10) (by decide) (by decide)).mpr (by omega)

/-- However long the answer of the core was, this one is read whole. -/
theorem length_resultDocument_le (result : Alert2IRDeliveryResult) :
    (resultDocument result).bytes.length ≤ 65536 := by
  have hbytes := Json.length_bytes_le (resultDocument result)
  have hwrite := Json.length_write_obj_le (Json.present (resultMembers result))
  rw [sum_present] at hwrite
  have hclassification : Json.memberLength ("classification",
      .str result.classification.value) ≤ 300 := by
    cases result.classification <;> exact (memberLength_str_le (le_refl _)).trans (by decide)
  have hstatus : (result.upstreamStatus.map fun status : Nat => Json.num status).elim 0
      (fun value => Json.memberLength ("upstream_status", value)) ≤ 300 := by
    rw [Option.elim_map]
    apply elim_le
    intro status hstatus
    have hlength := length_number_le (result.upstreamStatus_bounds hstatus).2
    have hkey := Json.length_quoted_le "upstream_status"
    have hname : "upstream_status".length = 15 := rfl
    show (Json.quoted "upstream_status").length + (Json.number status).length + 2 ≤ 300
    omega
  have hid : (result.processingId.map fun id => Json.str (uuidText id)).elim 0
      (fun value => Json.memberLength ("processing_id", value)) ≤ 400 := by
    rw [Option.elim_map]
    apply elim_le
    intro id _
    exact (memberLength_str_le (length_uuidText id).le).trans (by decide)
  have hstate : (result.state.map fun state => Json.str state.value).elim 0
      (fun value => Json.memberLength ("state", value)) ≤ 300 := by
    rw [Option.elim_map]
    apply elim_le
    intro state _
    cases state <;> exact (memberLength_str_le (le_refl _)).trans (by decide)
  have hurl : (result.statusUrl.map Json.str).elim 0
      (fun value => Json.memberLength ("status_url", value)) ≤ 12400 := by
    rw [Option.elim_map]
    apply elim_le
    intro url hurl
    exact (memberLength_str_le (result.length_statusUrl_le hurl)).trans (by decide)
  have hreplayed := memberLength_bool_le "replayed" result.replayed
  have houtcome : (result.decisionOutcome.map fun outcome => Json.str outcome.value).elim 0
      (fun value => Json.memberLength ("decision_outcome", value)) ≤ 300 := by
    rw [Option.elim_map]
    apply elim_le
    intro outcome _
    cases outcome <;> exact (memberLength_str_le (le_refl _)).trans (by decide)
  have hcode : (result.errorCode.map Json.str).elim 0
      (fun value => Json.memberLength ("error_code", value)) ≤ 500 := by
    rw [Option.elim_map]
    apply elim_le
    intro code hcode
    exact (memberLength_str_le (result.errorCode_safe hcode).1).trans (by decide)
  have hretryable := memberLength_bool_le "retryable" result.retryable
  have hunknown := memberLength_bool_le "acceptance_unknown" result.acceptanceUnknown
  have hnames : "replayed".length = 8 ∧ "retryable".length = 9 ∧
      "acceptance_unknown".length = 18 := ⟨rfl, rfl, rfl⟩
  have hsum : (memberLengths (resultMembers result)).sum ≤ 16000 := by
    simp only [memberLengths, resultMembers, List.map_cons, List.map_nil, List.sum_cons,
      List.sum_nil, Option.elim_some]
    omega
  rw [resultDocument] at hbytes ⊢
  omega

end Splunk

end Alert2IR
