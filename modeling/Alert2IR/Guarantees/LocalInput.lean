import Alert2IR.Splunk.Delivery

/-!
# The sender fails closed on local input

What the action is given, it either refuses with the name of an error, before it has asked for
anything, or has made a bounded body of, which is all it then sends. Two exceptions of the libraries
get through: what `urlsplit` raises and what a corrupt archive raises inside `zlib`.
-/

namespace Alert2IR

namespace Sender

open Interleaving.Proc

/-! ### Exceptions -/

/-- A function that raises nothing but an `ActionError`. -/
def Sanitized {α : Type} (x : Except PyError α) : Prop :=
  ∀ e, x = .error e → ∃ name, actionErrorName e = some name

section Sanitized

variable {α β : Type} {x : Except PyError α} {f : α → Except PyError β}

theorem sanitized_ok (a : α) : Sanitized (.ok a : Except PyError α) := fun _ h => nomatch h

theorem sanitized_pure (a : α) : Sanitized (pure a : Except PyError α) := sanitized_ok a

theorem sanitized_error {e : PyError} (h : e = actionInputError ∨ e = actionConfigurationError) :
    Sanitized (.error e : Except PyError α) := by
  intro e' he'
  cases he'
  rcases h with rfl | rfl
  · exact ⟨"ActionInputError", by decide +kernel⟩
  · exact ⟨"ActionConfigurationError", by decide +kernel⟩

theorem Sanitized.bind (hx : Sanitized x) (hf : ∀ a, x = .ok a → Sanitized (f a)) :
    Sanitized (x >>= f) := by
  cases x with
  | error e => exact fun e' he' => hx e' (congrArg Except.error (Except.error.inj he'))
  | ok a => exact hf a rfl

theorem sanitized_bind_iff :
    Sanitized (x >>= f) ↔ Sanitized x ∧ ∀ a, x = .ok a → Sanitized (f a) := by
  refine ⟨fun h => ⟨?_, ?_⟩, fun h => h.1.bind h.2⟩
  · rintro e rfl
    exact h e rfl
  · rintro a rfl
    exact h

theorem bind_error {e : PyError} (h : x >>= f = .error e) :
    x = .error e ∨ ∃ a, x = .ok a ∧ f a = .error e := by
  cases x with
  | error e' => exact .inl (congrArg Except.error (Except.error.inj h))
  | ok a => exact .inr ⟨a, rfl, h⟩

theorem ok_bind (a : α) : ((.ok a : Except PyError α) >>= f) = f a := rfl

theorem bind_ok {b : β} (h : x >>= f = .ok b) : ∃ a, x = .ok a ∧ f a = .ok b := by
  cases x with
  | error e => cases h
  | ok a => exact ⟨a, rfl, h⟩

theorem sanitized_requireString {unicode : Unicode} {value : Option String} {maximum : Nat}
    {error : PyError} (h : error = actionInputError ∨ error = actionConfigurationError) :
    Sanitized (requireString unicode value maximum error) := by
  unfold requireString
  split
  · split
    · exact sanitized_error h
    · exact sanitized_ok _
  · exact sanitized_error h

theorem sanitized_require {holds : Bool} {error : PyError}
    (h : error = actionInputError ∨ error = actionConfigurationError) :
    Sanitized (require holds error) := by
  unfold require
  split
  · exact sanitized_ok _
  · exact sanitized_error h

theorem canonicalUuid_sanitized (unicode : Unicode) (value : Option Json) :
    Sanitized (canonicalUuid unicode value) := by
  refine (sanitized_requireString (.inr rfl)).bind fun text _ => ?_
  split
  · exact sanitized_ok _
  · exact sanitized_error (.inr rfl)

theorem parseInvocation_sanitized (lib : Library) (rawPayload : List UInt8) :
    Sanitized (parseInvocation lib rawPayload) := by
  unfold parseInvocation
  split
  · exact sanitized_error (.inl rfl)
  · split
    · exact sanitized_ok _
    · exact sanitized_error (.inl rfl)

theorem resultsFileFromInvocation_sanitized (unicode : Unicode)
    (invocation : List (String × Json)) :
    Sanitized (resultsFileFromInvocation unicode invocation) := by
  refine (sanitized_requireString (.inl rfl)).bind fun value _ => ?_
  exact (sanitized_require (.inl rfl)).bind fun _ _ => sanitized_ok _

theorem singleRow_sanitized (rows : List (Option (List String))) : Sanitized (singleRow rows) := by
  unfold singleRow
  repeat' split
  all_goals first | exact sanitized_error (.inl rfl) | exact sanitized_ok _

theorem loadSecretFile_sanitized (files : String → PathState) (path : String) :
    Sanitized (loadSecretFile files path) := by
  unfold loadSecretFile loadSecret validateSecret
  repeat' split
  all_goals first | exact sanitized_error (.inr rfl) | exact sanitized_ok _

theorem serializeFinding_sanitized (finding : Json) : Sanitized (serializeFinding finding) := by
  unfold serializeFinding
  dsimp only
  split
  · exact sanitized_error (.inl rfl)
  · exact sanitized_ok _

theorem normalizeHostnameForComparison_sanitized (value : String) :
    Sanitized (normalizeHostnameForComparison value) := by
  unfold normalizeHostnameForComparison
  dsimp only
  split
  · exact sanitized_error (.inl rfl)
  · exact sanitized_ok _

theorem sanitized_mapM {g : α → Except PyError β} (hg : ∀ a, Sanitized (g a)) (value : Option α) :
    Sanitized (value.mapM g) := by
  cases value with
  | none => exact sanitized_ok _
  | some a => exact (hg a).bind fun _ _ => sanitized_ok _

theorem validateHostnames_sanitized (computer host : Option String) :
    Sanitized (validateHostnames computer host) := by
  refine (sanitized_mapM normalizeHostnameForComparison_sanitized _).bind fun computer _ => ?_
  refine (sanitized_mapM normalizeHostnameForComparison_sanitized _).bind fun host _ => ?_
  split
  · exact sanitized_error (.inl rfl)
  · exact sanitized_require (.inl rfl)
  · exact sanitized_ok _

theorem validateEventTime_sanitized (unicode : Unicode) (value : Option String) :
    Sanitized (validateEventTime unicode value) := by
  refine (sanitized_requireString (.inl rfl)).bind fun text _ => ?_
  repeat' split
  all_goals first | exact sanitized_error (.inl rfl) | exact sanitized_ok _

theorem decimalInteger_sanitized (unicode : Unicode) (value : Option String) (maximum : Int) :
    Sanitized (decimalInteger unicode value maximum) := by
  refine (sanitized_requireString (.inl rfl)).bind fun text _ => ?_
  refine (sanitized_require (.inl rfl)).bind fun _ _ => ?_
  exact (sanitized_require (.inl rfl)).bind fun _ _ => sanitized_ok _

theorem optionalResultValue_sanitized (unicode : Unicode) (row : List (String × String))
    (name : String) (maximum : Nat) : Sanitized (optionalResultValue unicode row name maximum) := by
  unfold optionalResultValue
  dsimp only
  split
  · exact sanitized_ok _
  · exact (sanitized_requireString (.inl rfl)).bind fun _ _ => sanitized_ok _

theorem buildFinding_sanitized (unicode : Unicode) (row : List (String × String))
    (config : ActionConfiguration) : Sanitized (buildFinding unicode row config) := by
  refine (optionalResultValue_sanitized _ _ _ _).bind fun computer _ => ?_
  refine (optionalResultValue_sanitized _ _ _ _).bind fun host _ => ?_
  refine (validateHostnames_sanitized _ _).bind fun _ _ => ?_
  refine (validateEventTime_sanitized _ _).bind fun detectedAt _ => ?_
  refine (decimalInteger_sanitized _ _ _).bind fun eventCode _ => ?_
  refine (decimalInteger_sanitized _ _ _).bind fun recordId _ => ?_
  refine (optionalResultValue_sanitized _ _ _ _).bind fun source _ => ?_
  refine (optionalResultValue_sanitized _ _ _ _).bind fun sourcetype _ => ?_
  refine (optionalResultValue_sanitized _ _ _ _).bind fun processGuid _ => ?_
  refine (optionalResultValue_sanitized _ _ _ _).bind fun image _ => ?_
  refine (optionalResultValue_sanitized _ _ _ _).bind fun parentImage _ => ?_
  exact (optionalResultValue_sanitized _ _ _ _).bind fun targetFilename _ => sanitized_ok _

end Sanitized

/-! ### What gets through -/

/-- The configuration of an invocation is complete, and `urlsplit` raises on its adapter URL. -/
def SplitRaises (lib : Library) (invocation : List (String × Json)) : Prop :=
  ∃ values url, invocation.lookup "configuration" = some (.obj values) ∧
    (∀ name ∈ requiredConfiguration, (values.lookup name).isSome = true) ∧
    requireString lib.unicode (stringOf (values.lookup "adapter_url")) maximumUrlLength
      actionConfigurationError = .ok url ∧
    lib.urlsplit url = none

/-- A file is small enough to be read, and `zlib` raises on it. -/
def InflateRaises (lib : Library) (files : String → PathState) (path : String) : Prop :=
  ∃ content, files path = .file content ∧ content.length ≤ maxCompressedResultsBytes ∧
    lib.decompress content = .zlibError

section Raises

variable {lib : Library} {files : String → PathState} {invocation values : List (String × Json)}
  {path : String}

/-- What `ActionConfiguration` raises beyond its own errors is a `TypeError`, or what `urlsplit`
raises. -/
theorem make_error {e : PyError} (h : ActionConfiguration.make lib values = .error e) :
    (∃ name, actionErrorName e = some name) ∨ (∃ message, e = .typeError message) ∨
      ∃ url, requireString lib.unicode (stringOf (values.lookup "adapter_url")) maximumUrlLength
        actionConfigurationError = .ok url ∧ lib.urlsplit url = none := by
  rcases bind_error h with hadapter | ⟨adapterUrl, -, h⟩
  · rcases bind_error hadapter with hstring | ⟨url, hstring, hadapter⟩
    · exact .inl (sanitized_requireString (.inr rfl) e hstring)
    · split at hadapter
      · next hsplit => exact .inr (.inr ⟨url, hstring, hsplit⟩)
      · split at hadapter
        · exact .inl (sanitized_error (.inr rfl) e hadapter)
        · cases hadapter
  rcases bind_error h with hrule | ⟨ruleId, -, h⟩
  · exact .inl (canonicalUuid_sanitized _ _ e hrule)
  rcases bind_error h with hfile | ⟨secretFile, -, h⟩
  · exact .inl (sanitized_requireString (.inr rfl) e hfile)
  rcases bind_error h with hpath | ⟨_, -, h⟩
  · exact .inl (sanitized_require (.inr rfl) e hpath)
  rcases bind_error h with htitle | ⟨ruleTitle, -, h⟩
  · exact .inl (sanitized_requireString (.inr rfl) e htitle)
  rcases bind_error h with hamong | ⟨among, -, h⟩
  · unfold isAmong at hamong
    split at hamong
    · cases hamong
    · cases hamong
      exact .inr (.inl ⟨_, rfl⟩)
    · cases hamong
      exact .inr (.inl ⟨_, rfl⟩)
    · cases hamong
  rcases bind_error h with hlevel | ⟨_, -, h⟩
  · exact .inl (sanitized_require (.inr rfl) e hlevel)
  split at h
  · split at h
    · cases h
    · exact .inl (sanitized_error (.inr rfl) e h)
  · exact .inl (sanitized_error (.inr rfl) e h)

theorem make_of_splitRaises {url : String}
    (hurl : requireString lib.unicode (stringOf (values.lookup "adapter_url")) maximumUrlLength
      actionConfigurationError = .ok url) (hsplit : lib.urlsplit url = none) :
    ActionConfiguration.make lib values = .error (.valueError "Invalid URL") := by
  unfold ActionConfiguration.make validateAdapterUrl
  rw [hurl]
  simp only [bind, Except.bind, hsplit]

theorem parseConfiguration_of_splitRaises (h : SplitRaises lib invocation) :
    parseConfiguration lib invocation = .error (.valueError "Invalid URL") := by
  obtain ⟨values, url, hconfiguration, hrequired, hurl, hsplit⟩ := h
  have hpresent : ¬ (requiredConfiguration.any fun name => (values.lookup name).isNone) := by
    intro hany
    obtain ⟨name, hname, hnone⟩ := List.any_eq_true.mp hany
    have hsome := hrequired name hname
    rw [Option.isNone_iff_eq_none.mp hnone] at hsome
    cases hsome
  unfold parseConfiguration
  rw [hconfiguration]
  dsimp only
  rw [if_neg hpresent, make_of_splitRaises hurl hsplit]

theorem readSingleResult_of_inflateRaises (h : InflateRaises lib files path) :
    readSingleResult lib files path = .error (.other "zlib.error") := by
  obtain ⟨content, hfile, hsize, hraises⟩ := h
  unfold readSingleResult
  rw [hfile]
  dsimp only
  rw [if_neg (Nat.not_lt.mpr hsize), hraises]

theorem actionErrorName_zlibError : actionErrorName (.other "zlib.error") = none := by
  decide +kernel

theorem parseConfiguration_sanitized_iff :
    Sanitized (parseConfiguration lib invocation) ↔ ¬SplitRaises lib invocation := by
  constructor
  · intro hsanitized hsplit
    obtain ⟨name, hname⟩ := hsanitized _ (parseConfiguration_of_splitRaises hsplit)
    cases hname
  · intro hsplit
    unfold parseConfiguration
    split
    · next values hconfiguration =>
      split
      · exact sanitized_error (.inr rfl)
      · next hpresent =>
        split
        · exact sanitized_error (.inr rfl)
        · next hnot =>
          intro e he
          rcases make_error he with hname | ⟨message, rfl⟩ | ⟨url, hurl, hraises⟩
          · exact hname
          · exact absurd he (hnot message)
          · refine absurd ⟨values, url, hconfiguration, fun name hname => ?_, hurl, hraises⟩ hsplit
            rw [Option.isSome_iff_ne_none]
            intro hnone
            apply hpresent
            exact List.any_eq_true.mpr ⟨name, hname, Option.isNone_iff_eq_none.mpr hnone⟩
    · exact sanitized_error (.inr rfl)

theorem readSingleResult_sanitized_iff :
    Sanitized (readSingleResult lib files path) ↔ ¬InflateRaises lib files path := by
  constructor
  · intro hsanitized hinflate
    obtain ⟨name, hname⟩ := hsanitized _ (readSingleResult_of_inflateRaises hinflate)
    cases hname.symm.trans actionErrorName_zlibError
  · intro hinflate
    unfold readSingleResult
    split
    · exact sanitized_error (.inl rfl)
    · exact sanitized_error (.inl rfl)
    · next content hfile =>
      split
      · exact sanitized_error (.inl rfl)
      · next hsize =>
        split
        · exact sanitized_error (.inl rfl)
        · exact sanitized_error (.inl rfl)
        · next hraises =>
          exact absurd ⟨content, hfile, Nat.not_lt.mp hsize, hraises⟩ hinflate
        · split
          · exact sanitized_error (.inl rfl)
          · split
            · exact sanitized_error (.inl rfl)
            · next text _ =>
              split
              · next e he => exact fun e' he' => singleRow_sanitized _ e' (by rw [he, he'])
              · exact sanitized_ok _

end Raises

/-! ### What is read -/

/-- The rows a reader yields are the expected header, with or without its companions, and a single
row that fills it, whose expected cells are these. Empty rows do not count. -/
def OneRow (rows : List (Option (List String))) (cells : List String) : Prop :=
  ∃ n m companions header, (header, companions.length) ∈ [(expectedResultFields, 0),
      (expectedResultFields ++ splunkMultivalueResultFields, 11)] ∧
    cells.length = expectedResultFields.length ∧
    rows = some header :: (List.replicate n (some []) ++
      some (cells ++ companions) :: List.replicate m (some []))

section Rows

variable {rows rest : List (Option (List String))}

theorem nextRow_eq_none (h : nextRow rows = some (none, rest)) :
    ∃ n, rows = List.replicate n (some []) := by
  induction rows with
  | nil => exact ⟨0, rfl⟩
  | cons row rows ih =>
      match row, h with
      | some [], h =>
          obtain ⟨n, rfl⟩ := ih h
          exact ⟨n + 1, rfl⟩

theorem nextRow_eq_some {cells : List String} (h : nextRow rows = some (some cells, rest)) :
    ∃ n, rows = List.replicate n (some []) ++ some cells :: rest := by
  induction rows with
  | nil => cases h
  | cons row rows ih =>
      match row, h with
      | some [], h =>
          obtain ⟨n, rfl⟩ := ih h
          exact ⟨n + 1, rfl⟩
      | some (value :: row), h =>
          cases h
          exact ⟨0, rfl⟩

theorem zip_filter (cells : List String) :
    ((expectedResultFields.zip cells).filter fun cell => cell.1 ∈ expectedResultFields) =
      expectedResultFields.zip cells := by
  apply List.filter_eq_self.mpr
  intro cell hcell
  exact decide_eq_true (List.of_mem_zip hcell).1

theorem companions_filter (cells : List String) :
    ((splunkMultivalueResultFields.zip cells).filter fun cell => cell.1 ∈ expectedResultFields) =
      [] := by
  have hdisjoint : ∀ name ∈ splunkMultivalueResultFields, name ∉ expectedResultFields := by
    decide +kernel
  apply List.filter_eq_nil_iff.mpr
  intro cell hcell
  rw [decide_eq_true_eq]
  exact hdisjoint _ (List.of_mem_zip hcell).1

/-- A row that is found is the only one, and of its cells the companions are left out. -/
theorem oneRow_of_singleRow {first : List (String × String)} (h : singleRow rows = .ok first) :
    ∃ cells, OneRow rows cells ∧
      (first.filter fun cell => cell.1 ∈ expectedResultFields) =
        expectedResultFields.zip cells := by
  match rows, h with
  | some fieldnames :: rows, h =>
      rw [singleRow] at h
      split at h
      · cases h
      next hsupported =>
      split at h
      · next cells htwo =>
        split at h
        · next hlength =>
          cases h
          obtain ⟨⟨one, rest⟩, hone, htwo⟩ := Option.bind_eq_some_iff.mp htwo
          obtain ⟨⟨two, rest'⟩, hnone, hpair⟩ := Option.bind_eq_some_iff.mp htwo
          cases hpair
          obtain ⟨n, rfl⟩ := nextRow_eq_some hone
          obtain ⟨m, rfl⟩ := nextRow_eq_none hnone
          rw [not_not, supportedFieldSets, List.mem_cons, List.mem_singleton] at hsupported
          rcases hsupported with rfl | rfl
          · refine ⟨cells, ⟨n, m, [], expectedResultFields, .head _, hlength, ?_⟩, zip_filter cells⟩
            rw [List.append_nil]
          · have hcells : cells.length = 22 := hlength
            have htake : (cells.take 11).length = expectedResultFields.length := by
              rw [List.length_take, hcells]
              rfl
            refine ⟨cells.take 11, ⟨n, m, cells.drop 11,
              expectedResultFields ++ splunkMultivalueResultFields, ?_, htake, ?_⟩, ?_⟩
            · rw [List.length_drop, hcells]
              exact .tail _ (.head _)
            · rw [List.take_append_drop]
            · calc ((expectedResultFields ++ splunkMultivalueResultFields).zip cells).filter
                    (fun cell => decide (cell.1 ∈ expectedResultFields))
                  = (expectedResultFields.zip (cells.take 11) ++
                      splunkMultivalueResultFields.zip (cells.drop 11)).filter
                        (fun cell => decide (cell.1 ∈ expectedResultFields)) := by
                    rw [← List.zip_append htake.symm, List.take_append_drop]
                _ = expectedResultFields.zip (cells.take 11) ++ [] := by
                    rw [List.filter_append, zip_filter, companions_filter]
                _ = expectedResultFields.zip (cells.take 11) := List.append_nil _
        · cases h
      · cases h

/-- What is read of a results file is the one row there is. -/
theorem readSingleResult_eq_ok {lib : Library} {files : String → PathState} {path : String}
    {row : List (String × String)} (h : readSingleResult lib files path = .ok row) :
    ∃ content payload text cells, files path = .file content ∧
      lib.decompress content = .payload payload ∧ decodeUtf8Sig payload = some text ∧
      OneRow (lib.reader text) cells ∧ row = expectedResultFields.zip cells := by
  unfold readSingleResult at h
  split at h
  · cases h
  · cases h
  next content hfile =>
  split at h
  · cases h
  split at h
  · cases h
  · cases h
  · cases h
  next payload hpayload =>
  split at h
  · cases h
  split at h
  · cases h
  next text htext =>
  split at h
  · cases h
  · next first hfirst =>
    obtain ⟨cells, hrow, hfilter⟩ := oneRow_of_singleRow hfirst
    cases h
    exact ⟨content, payload, text, cells, hfile, hpayload, htext, hrow, hfilter⟩

end Rows

/-! ### What is sent -/

/-- A body of bounded size, built from the invocation and the one row of its results file. -/
def Built (lib : Library) (files : String → PathState) (stdin body : List UInt8) : Prop :=
  ∃ invocation config path content payload text cells finding,
    parseInvocation lib stdin = .ok invocation ∧ parseConfiguration lib invocation = .ok config ∧
    resultsFileFromInvocation lib.unicode invocation = .ok path ∧ files path = .file content ∧
    lib.decompress content = .payload payload ∧ decodeUtf8Sig payload = some text ∧
    OneRow (lib.reader text) cells ∧
    buildFinding lib.unicode (expectedResultFields.zip cells) config = .ok finding ∧
    serializeFinding finding = .ok body ∧ body.length ≤ 65536

/-- The action either refuses its input with the name of an error, and has sent nothing, or has
built a body, and sends nothing else. -/
def FailsClosed (lib : Library) (files : String → PathState) (stdin : List UInt8)
    (h : List (Interleaving.Observation Call Call.Response)) (r : Except PyError (Nat × String)) :
    Prop :=
  ((∀ o ∈ h, ∀ url body timestamp signature, o.call ≠ .transport url body timestamp signature) ∧
      ∃ e name, actionErrorName e = some name ∧ r = .ok (1, errorLine name)) ∨
    ∃ body, Built lib files stdin body ∧ ∀ o ∈ h, ∀ url sent timestamp signature,
      o.call = .transport url sent timestamp signature → sent = body

section Runs

variable {lib : Library} {files : String → PathState} {stdin body : List UInt8}
  {config : ActionConfiguration} {α β : Type}

/-- What the action makes of its input before it delivers anything. -/
def prepared (lib : Library) (files : String → PathState) (stdin : List UInt8) :
    Except PyError (List UInt8 × ActionConfiguration × List UInt8) := do
  let payload ← readBoundedStdin stdin
  let invocation ← parseInvocation lib payload
  let config ← parseConfiguration lib invocation
  let resultsPath ← resultsFileFromInvocation lib.unicode invocation
  let row ← readSingleResult lib files resultsPath
  let finding ← buildFinding lib.unicode row config
  let body ← serializeFinding finding
  let secret ← loadSecretFile files config.secretFile
  return (body, config, secret)

theorem evaluate_bind (x : Except PyError α) (f : α → Except PyError β) :
    evaluate (x >>= f) = evaluate x >>= fun a => evaluate (f a) := by
  cases x with
  | ok a => rfl
  | error e => rfl

theorem executes_prepared :
    (do
      let payload ← evaluate (readBoundedStdin stdin)
      let invocation ← evaluate (parseInvocation lib payload)
      executeInvocation lib files invocation) =
    evaluate (prepared lib files stdin) >>= fun x => deliver lib x.1 x.2.1 x.2.2 := by
  unfold prepared executeInvocation
  simp only [evaluate_bind, bind_assoc]
  rfl

/-- Nothing but the body is delivered. -/
theorem deliver_only (secret : List UInt8) : Only (fun c => ∀ url sent timestamp signature,
    c = .transport url sent timestamp signature → sent = body)
    (deliver lib body config secret) := by
  have hevaluate {α : Type} (x : Except PyError α) : Only (fun c =>
      ∀ url sent timestamp signature, c = .transport url sent timestamp signature → sent = body)
      (evaluate x) := by
    cases x <;> trivial
  have hfrom : ∀ left attempt, Only (fun c => ∀ url sent timestamp signature,
      c = .transport url sent timestamp signature → sent = body)
      (deliverFrom lib body config secret attempt left) := by
    intro left
    induction left with
    | zero => exact fun attempt => .throw _
    | succ left ih =>
        intro attempt
        rw [deliverFrom]
        apply Only.bind (.perform (by simp))
        intro reading
        apply Only.bind (hevaluate _)
        intro timestamp
        apply Only.bind (hevaluate _)
        intro signature
        apply Only.bind (.perform ?_)
        · intro response
          apply Only.bind (hevaluate _)
          intro disposition
          split
          · exact .pure _
          · apply Only.bind (.perform (by simp))
            exact fun _ => ih (attempt + 1)
        · intro url sent timestamp' signature' heq
          cases heq
          rfl
  apply Only.bind (hevaluate _)
  intro _
  apply Only.bind (hevaluate _)
  exact fun _ => hfrom maximumAttempts 1

theorem readBoundedStdin_eq_ok_iff {payload : List UInt8} :
    readBoundedStdin stdin = .ok payload ↔
      stdin.length ≤ maximumInvocationBytes ∧ stdin = payload := by
  unfold readBoundedStdin
  dsimp only
  rw [List.length_take]
  split
  · refine iff_of_false (by simp) ?_
    omega
  · next hlength =>
    have hle : stdin.length ≤ maximumInvocationBytes := by omega
    rw [List.take_of_length_le (by omega), Except.ok.injEq]
    exact (and_iff_right hle).symm

theorem readBoundedStdin_sanitized (stdin : List UInt8) : Sanitized (readBoundedStdin stdin) := by
  unfold readBoundedStdin
  dsimp only
  split
  · exact sanitized_error (.inl rfl)
  · exact sanitized_ok _

theorem length_le_of_parseInvocation {invocation : List (String × Json)}
    (h : parseInvocation lib stdin = .ok invocation) : stdin.length ≤ maximumInvocationBytes := by
  unfold parseInvocation at h
  split at h
  · cases h
  · next hlength => exact Nat.not_lt.mp hlength

theorem prepared_of_parses {invocation : List (String × Json)}
    (h : parseInvocation lib stdin = .ok invocation) :
    prepared lib files stdin = (do
      let config ← parseConfiguration lib invocation
      let resultsPath ← resultsFileFromInvocation lib.unicode invocation
      let row ← readSingleResult lib files resultsPath
      let finding ← buildFinding lib.unicode row config
      let body ← serializeFinding finding
      let secret ← loadSecretFile files config.secretFile
      return (body, config, secret)) := by
  unfold prepared
  rw [readBoundedStdin_eq_ok_iff.mpr ⟨length_le_of_parseInvocation h, rfl⟩, ok_bind, h, ok_bind]

theorem prepared_sanitized_iff :
    Sanitized (prepared lib files stdin) ↔
      ¬∃ invocation, parseInvocation lib stdin = .ok invocation ∧
        (SplitRaises lib invocation ∨ ∃ config path,
          parseConfiguration lib invocation = .ok config ∧
          resultsFileFromInvocation lib.unicode invocation = .ok path ∧
          InflateRaises lib files path) := by
  unfold prepared
  simp only [sanitized_bind_iff, readBoundedStdin_sanitized, parseInvocation_sanitized,
    parseConfiguration_sanitized_iff, resultsFileFromInvocation_sanitized,
    readSingleResult_sanitized_iff, buildFinding_sanitized, serializeFinding_sanitized,
    loadSecretFile_sanitized, sanitized_pure, readBoundedStdin_eq_ok_iff, true_and, implies_true,
    and_true]
  constructor
  · rintro hall ⟨invocation, hinvocation, hraises⟩
    obtain ⟨hsplit, hinflate⟩ := hall stdin ⟨length_le_of_parseInvocation hinvocation, rfl⟩
      invocation hinvocation
    rcases hraises with hraises | ⟨config, path, hconfig, hpath, hraises⟩
    · exact hsplit hraises
    · exact hinflate config hconfig path hpath hraises
  · rintro hnot payload ⟨-, rfl⟩ invocation hinvocation
    refine ⟨fun hsplit => hnot ⟨invocation, hinvocation, .inl hsplit⟩, ?_⟩
    intro config hconfig path hpath hinflate
    exact hnot ⟨invocation, hinvocation, .inr ⟨config, path, hconfig, hpath, hinflate⟩⟩

/-- What has been prepared has been built. -/
theorem built_of_prepared {secret : List UInt8}
    (h : prepared lib files stdin = .ok (body, config, secret)) : Built lib files stdin body := by
  obtain ⟨payload, hread, h⟩ := bind_ok h
  obtain ⟨-, rfl⟩ := readBoundedStdin_eq_ok_iff.mp hread
  obtain ⟨invocation, hinvocation, h⟩ := bind_ok h
  obtain ⟨config', hconfig, h⟩ := bind_ok h
  obtain ⟨path, hpath, h⟩ := bind_ok h
  obtain ⟨row, hrow, h⟩ := bind_ok h
  obtain ⟨finding, hfinding, h⟩ := bind_ok h
  obtain ⟨body', hbody, h⟩ := bind_ok h
  obtain ⟨secret', -, h⟩ := bind_ok h
  cases h
  obtain ⟨content, payload, text, cells, hfile, hpayload, htext, hone, rfl⟩ :=
    readSingleResult_eq_ok hrow
  refine ⟨invocation, config, path, content, payload, text, cells, finding, hinvocation, hconfig,
    hpath, hfile, hpayload, htext, hone, hfinding, hbody, ?_⟩
  unfold serializeFinding at hbody
  dsimp only at hbody
  split at hbody
  · cases hbody
  · next hlength =>
    cases hbody
    exact Nat.not_lt.mp hlength

/-- Of what has been built, neither the URL nor the archive was such that a library raised. -/
theorem Built.not_raises (h : Built lib files stdin body) :
    ¬∃ invocation, parseInvocation lib stdin = .ok invocation ∧
      (SplitRaises lib invocation ∨ ∃ config path,
        parseConfiguration lib invocation = .ok config ∧
        resultsFileFromInvocation lib.unicode invocation = .ok path ∧
        InflateRaises lib files path) := by
  obtain ⟨invocation, config, path, content, payload, text, cells, finding, hinvocation, hconfig,
    hpath, hfile, hpayload, -⟩ := h
  rintro ⟨invocation', hinvocation', hraises⟩
  cases hinvocation.symm.trans hinvocation'
  rcases hraises with hsplit | ⟨config', path', hconfig', hpath', content', hfile', -, hinflate⟩
  · have hsanitized : Sanitized (parseConfiguration lib invocation) := by
      rw [hconfig]
      exact sanitized_ok _
    exact parseConfiguration_sanitized_iff.mp hsanitized hsplit
  · cases hpath.symm.trans hpath'
    cases hfile.symm.trans hfile'
    cases hpayload.symm.trans hinflate

/-- A run refuses what cannot be prepared, and delivers what can. -/
theorem returns_main {h : List (Interleaving.Observation Call Call.Response)}
    {r : Except PyError (Nat × String)}
    (hreturns : Returns (main lib files ["--execute"] stdin) h r) :
    (∃ e, prepared lib files stdin = .error e ∧ h = [] ∧
      r = match actionErrorName e with
        | some name => .ok (1, errorLine name)
        | none => .error e) ∨
    ∃ body config secret, prepared lib files stdin = .ok (body, config, secret) ∧
      ∀ o ∈ h, ∀ url sent timestamp signature,
        o.call = .transport url sent timestamp signature → sent = body := by
  rw [main, if_neg (by simp), executes_prepared] at hreturns
  obtain ⟨h₁, x, h₂, rfl, hexecutes, hends⟩ := returns_catching_bind_iff.mp hreturns
  have hquiet : h₂ = [] := by
    cases x with
    | ok outcome => exact (returns_pure_iff.mp hends).1
    | error e =>
        dsimp only at hends
        split at hends
        · exact (returns_pure_iff.mp hends).1
        · exact (returns_throw_iff.mp hends).1
  subst hquiet
  rw [List.append_nil]
  cases hprepared : prepared lib files stdin with
  | error e =>
      rw [hprepared] at hexecutes
      obtain ⟨rfl, rfl⟩ : h₁ = [] ∧ x = .error e := returns_throw_iff.mp hexecutes
      refine .inl ⟨e, rfl, rfl, ?_⟩
      dsimp only at hends
      cases hname : actionErrorName e with
      | some name =>
          rw [hname] at hends
          exact (returns_pure_iff.mp hends).2
      | none =>
          rw [hname] at hends
          exact (returns_throw_iff.mp hends).2
  | ok prepared =>
      obtain ⟨body, config, secret⟩ := prepared
      rw [hprepared] at hexecutes
      refine .inr ⟨body, config, secret, rfl, fun o ho => ?_⟩
      exact hexecutes.only (deliver_only secret) o ho

end Runs

end Sender

open Sender Interleaving.Proc

/-- **When the sender fails closed.** Whatever its input and its surroundings, the action refuses
the input with the name of an error and sends nothing, or sends nothing but the bounded body it has
built of the one expected row, exactly if neither `urlsplit` raises on its adapter URL nor `zlib` on
its results file. Of the functions that look at the input, no other than `parse_configuration` and
`read_single_result` raises anything but an `ActionError`, and these only then. -/
theorem fails_closed_iff (lib : Library) (files : String → PathState) :
    (∀ stdin h r, Returns (main lib files ["--execute"] stdin) h r →
      (FailsClosed lib files stdin h r ↔
        ¬∃ invocation, parseInvocation lib stdin = .ok invocation ∧
          (SplitRaises lib invocation ∨ ∃ config path,
            parseConfiguration lib invocation = .ok config ∧
            resultsFileFromInvocation lib.unicode invocation = .ok path ∧
            InflateRaises lib files path))) ∧
    (∀ stdin, Sanitized (parseInvocation lib stdin)) ∧
    (∀ invocation,
      Sanitized (parseConfiguration lib invocation) ↔ ¬SplitRaises lib invocation) ∧
    (∀ path, Sanitized (readSingleResult lib files path) ↔ ¬InflateRaises lib files path) ∧
    (∀ row config, Sanitized (buildFinding lib.unicode row config)) ∧
    (∀ finding, Sanitized (serializeFinding finding)) ∧
    ∀ path, Sanitized (loadSecretFile files path) := by
  refine ⟨fun stdin h r hreturns => ?_, fun stdin => parseInvocation_sanitized lib stdin,
    fun invocation => parseConfiguration_sanitized_iff,
    fun path => readSingleResult_sanitized_iff,
    fun row config => buildFinding_sanitized lib.unicode row config,
    fun finding => serializeFinding_sanitized finding,
    fun path => loadSecretFile_sanitized files path⟩
  constructor
  · rintro (⟨-, e, name, hname, rfl⟩ | ⟨body, hbuilt, -⟩)
    · rw [← prepared_sanitized_iff]
      rcases returns_main hreturns with
        ⟨e', hprepared, -, hends⟩ | ⟨body, config, secret, hprepared, -⟩
      · intro e'' he''
        cases he''.symm.trans hprepared
        split at hends
        · next name' hname' => exact ⟨name', hname'⟩
        · cases hends
      · rw [hprepared]
        exact sanitized_ok _
    · exact hbuilt.not_raises
  · rw [← prepared_sanitized_iff]
    intro hsanitized
    rcases returns_main hreturns with
      ⟨e, hprepared, rfl, rfl⟩ | ⟨body, config, secret, hprepared, honly⟩
    · obtain ⟨name, hname⟩ := hsanitized e hprepared
      have hquiet : ∀ o ∈ ([] : List (Interleaving.Observation Sender.Call Sender.Call.Response)),
          ∀ url body timestamp signature, o.call ≠ .transport url body timestamp signature :=
        fun o ho => nomatch ho
      refine .inl ⟨hquiet, e, name, hname, ?_⟩
      rw [hname]
    · exact .inr ⟨body, built_of_prepared hprepared, honly⟩

namespace Sender.Scenario

/-- A library that reads what it has written, that refuses a URL with an open bracket and any
archive. -/
def library : Library where
  hmac _ _ := Vector.replicate 32 0
  unicode := .ascii
  json := .strict
  urlsplit url :=
    if '[' ∈ url.toList then none
    else some {
      scheme := "http"
      username := none
      password := none
      hostname := some "adapter"
      path := "/v1/splunk/findings"
      query := ""
      fragment := "" }
  decompress _ := .zlibError
  reader _ := []

/-- The header of an archive, and a block of no type there is. -/
def corrupt : List UInt8 := [0x1F, 0x8B, 8, 0, 0, 0, 0, 0, 0, 3, 7]

def files (_ : String) : PathState := .file corrupt

def invocation (adapterUrl : String) : List (String × Json) :=
  [("results_file", .str "/results.csv.gz"),
    ("configuration", .obj [("adapter_url", .str adapterUrl), ("secret_file", .str "/secret"),
      ("rule_id", .str "00000000-0000-0000-0000-000000000001"), ("rule_title", .str "Rule"),
      ("sigma_level", .str "high"), ("channel", .str windowsSysmonChannel)])]

def bracketed : String := "http://[::1/v1/splunk/findings"

def adapter : String := "http://adapter/v1/splunk/findings"

theorem parseInvocation_bytes {adapterUrl : String}
    (hlength : (Json.obj (invocation adapterUrl)).bytes.length ≤ maximumInvocationBytes) :
    parseInvocation library (Json.obj (invocation adapterUrl)).bytes =
      .ok (invocation adapterUrl) := by
  unfold parseInvocation
  rw [if_neg (Nat.not_lt.mpr hlength), library, Json.Decoder.strict]
  dsimp only
  rw [Json.loads_bytes]

/-- An exception that is no `ActionError` leaves the action before it has sent anything. -/
theorem leaves {lib : Library} {files : String → PathState} {stdin : List UInt8} {e : PyError}
    (hprepared : prepared lib files stdin = .error e) (hname : actionErrorName e = none) :
    Returns (main lib files ["--execute"] stdin) [] (.error e) := by
  rw [main, if_neg (by simp), executes_prepared, hprepared]
  have hraised : Returns (evaluate (.error e) >>= fun x : List UInt8 × ActionConfiguration ×
      List UInt8 => deliver lib x.1 x.2.1 x.2.2) [] (.error e) := returns_throw_iff.mpr ⟨rfl, rfl⟩
  refine returns_catching_bind_iff.mpr ⟨[], .error e, [], rfl, hraised, ?_⟩
  dsimp only
  rw [hname]
  exact returns_throw_iff.mpr ⟨rfl, rfl⟩

/-- What leaves the action is no failure that it reports. -/
theorem not_failsClosed {lib : Library} {files : String → PathState} {stdin : List UInt8}
    {e : PyError} {h : List (Interleaving.Observation Sender.Call Sender.Call.Response)}
    (hbuilt : ∀ body, ¬Built lib files stdin body) : ¬FailsClosed lib files stdin h (.error e) := by
  rintro (⟨-, _, _, -, heq⟩ | ⟨body, hbody, -⟩)
  · cases heq
  · exact hbuilt body hbody

theorem parses_bracketed : parseInvocation library (Json.obj (invocation bracketed)).bytes =
    .ok (invocation bracketed) := parseInvocation_bytes (by decide +kernel)

-- It is the library that refuses the URL.
example : (library.urlsplit bracketed).isNone = true := by decide +kernel

theorem parses_adapter : parseInvocation library (Json.obj (invocation adapter)).bytes =
    .ok (invocation adapter) := parseInvocation_bytes (by decide +kernel)

example : (library.urlsplit adapter).isSome = true := by decide +kernel

theorem configured : ∃ config, parseConfiguration library (invocation adapter) = .ok config := by
  have hok : (parseConfiguration library (invocation adapter)).isOk = true := by decide +kernel
  cases hconfig : parseConfiguration library (invocation adapter) with
  | ok config => exact ⟨config, rfl⟩
  | error e =>
      rw [hconfig] at hok
      cases hok

end Sender.Scenario

open Sender.Scenario in
/-- A URL with an open bracket and a corrupt archive leave the action with what the libraries
raised: nothing has been sent, and nothing is reported. -/
theorem not_fails_closed :
    (Returns (main library files ["--execute"] (Json.obj (invocation bracketed)).bytes) []
        (.error (.valueError "Invalid URL")) ∧
      ¬FailsClosed library files (Json.obj (invocation bracketed)).bytes []
        (.error (.valueError "Invalid URL"))) ∧
    (Returns (main library files ["--execute"] (Json.obj (invocation adapter)).bytes) []
        (.error (.other "zlib.error")) ∧
      ¬FailsClosed library files (Json.obj (invocation adapter)).bytes []
        (.error (.other "zlib.error"))) := by
  have hsplit : SplitRaises library (invocation bracketed) :=
    ⟨_, bracketed, rfl, by decide +kernel, rfl, rfl⟩
  have hbracketed : prepared library files (Json.obj (invocation bracketed)).bytes =
      .error (.valueError "Invalid URL") := by
    rw [prepared_of_parses parses_bracketed, parseConfiguration_of_splitRaises hsplit]
    rfl
  have hadapter : prepared library files (Json.obj (invocation adapter)).bytes =
      .error (.other "zlib.error") := by
    obtain ⟨config, hconfig⟩ := configured
    have hinflate : InflateRaises library files "/results.csv.gz" := ⟨_, rfl, by decide, rfl⟩
    rw [prepared_of_parses parses_adapter, hconfig]
    have hpath : resultsFileFromInvocation library.unicode (invocation adapter) =
        .ok "/results.csv.gz" := rfl
    simp only [hpath, ok_bind, readSingleResult_of_inflateRaises hinflate]
    rfl
  refine ⟨⟨leaves hbracketed rfl, not_failsClosed fun body hbuilt => ?_⟩,
    ⟨leaves hadapter actionErrorName_zlibError, not_failsClosed fun body hbuilt => ?_⟩⟩
  · have hsanitized := prepared_sanitized_iff.mpr hbuilt.not_raises
    obtain ⟨name, hname⟩ := hsanitized _ hbracketed
    cases hname
  · have hsanitized := prepared_sanitized_iff.mpr hbuilt.not_raises
    obtain ⟨name, hname⟩ := hsanitized _ hadapter
    cases hname.symm.trans actionErrorName_zlibError

end Alert2IR
