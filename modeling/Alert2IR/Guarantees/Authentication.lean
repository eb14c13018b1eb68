import Alert2IR.Core.Text
import Alert2IR.Splunk.Signing

/-!
# Sender and gateway agree on authentication

They read the same secret out of a file, and what the one signs the other verifies as long as their
clocks agree.
-/

namespace Alert2IR

open Splunk Sender

section Secrets

theorem loadSecret_eq_ok_iff {content secret : List UInt8} : loadSecret content = .ok secret ↔
    content.length ≤ 4098 ∧ withoutLineEnd content = secret ∧ 32 ≤ secret.length ∧
      secret.length ≤ 4096 := by
  unfold loadSecret
  by_cases hsize : content.length > maximumSecretBytes + 2
  · rw [if_pos hsize]
    refine iff_of_false (by simp) fun h => ?_
    rw [maximumSecretBytes] at hsize
    omega
  · have hread : content.take (maximumSecretBytes + 3) = content := by
      apply List.take_of_length_le
      omega
    rw [if_neg hsize, hread, validateSecret, minimumSecretBytes]
    rw [maximumSecretBytes] at hsize ⊢
    split
    · next hlength =>
      simp only [Except.ok.injEq]
      constructor
      · rintro rfl
        exact ⟨by omega, rfl, hlength⟩
      · exact fun h => h.2.1
    · next hlength =>
      simp only [reduceCtorEq, false_iff, not_and]
      rintro - rfl hmin hmax
      exact hlength ⟨hmin, hmax⟩

theorem loadSharedSecret_eq_ok_iff {content secret : List UInt8} :
    loadSharedSecret content = .ok secret ↔
      content.length ≤ 4098 ∧ withoutLineEnd content = secret ∧ 32 ≤ secret.length ∧
        secret.length ≤ 4096 := by
  unfold loadSharedSecret
  by_cases hsize : content.length > maximumSecretFileBytes + 2
  · rw [if_pos hsize]
    refine iff_of_false (by simp) fun h => ?_
    rw [maximumSecretFileBytes] at hsize
    omega
  · have hread : content.take (maximumSecretFileBytes + 2) = content := by
      apply List.take_of_length_le
      omega
    have hmaximum : maximumSecretFileBytes = 4096 := rfl
    have hminimum : minimumSharedSecretBytes = 32 := rfl
    rw [if_neg hsize, hread]
    simp only [validateSharedSecret]
    by_cases hlong : (withoutLineEnd content).length > maximumSecretFileBytes
    · rw [if_pos hlong]
      refine iff_of_false (by simp) ?_
      rintro ⟨-, rfl, -, hmax⟩
      omega
    rw [if_neg hlong]
    by_cases hshort : (withoutLineEnd content).length < minimumSharedSecretBytes
    · rw [if_pos hshort]
      refine iff_of_false (by simp) ?_
      rintro ⟨-, rfl, hmin, -⟩
      omega
    · rw [if_neg hshort]
      simp only [Except.ok.injEq]
      constructor
      · rintro rfl
        exact ⟨by omega, rfl, by omega, by omega⟩
      · exact fun h => h.2.1

end Secrets

section Signatures

variable {timestamp timestamp' : List Char} {body body' : List UInt8}

theorem digits_of_timestampPattern (h : timestampPattern timestamp = true) :
    ∀ c ∈ timestamp, c.isDigit = true := by
  unfold timestampPattern at h
  split at h
  · exact List.all_eq_true.mp (by decide)
  · next first rest hzero =>
    simp only [Bool.and_eq_true, decide_eq_true_eq, List.all_eq_true] at h
    obtain ⟨⟨⟨hlow, hhigh⟩, -⟩, hrest⟩ := h
    rintro c (_ | ⟨_, hc⟩)
    · rw [Char.isDigit, Bool.and_eq_true, decide_eq_true_eq, decide_eq_true_eq]
      exact ⟨UInt32.le_trans (by decide : '0'.val ≤ '1'.val) hlow, hhigh⟩
    · exact hrest c hc
  · cases h

theorem toNat_of_isDigit {c : Char} (h : c.isDigit = true) : 48 ≤ c.toNat ∧ c.toNat ≤ 57 := by
  rw [Char.isDigit, Bool.and_eq_true, decide_eq_true_eq, decide_eq_true_eq] at h
  exact h

theorem toNat_ofNat_of_isDigit {c : Char} (h : c.isDigit = true) :
    (UInt8.ofNat c.toNat).toNat = c.toNat := by
  have hdigit := toNat_of_isDigit h
  apply UInt8.toNat_ofNat_of_lt'
  show c.toNat < 256
  omega

/-- A digit is no line feed. -/
theorem lineFeed_notMem_asciiBytes (h : ∀ c ∈ timestamp, c.isDigit = true) :
    (10 : UInt8) ∉ asciiBytes timestamp := by
  intro hmem
  obtain ⟨c, hc, hbyte⟩ := List.mem_map.mp hmem
  have hdigit := toNat_of_isDigit (h c hc)
  have htoNat := congrArg UInt8.toNat hbyte
  rw [toNat_ofNat_of_isDigit (h c hc)] at htoNat
  have hten : (10 : UInt8).toNat = 10 := rfl
  omega

/-- Digits are known by their bytes. -/
theorem map_asciiBytes (h : ∀ c ∈ timestamp, c.isDigit = true) :
    (asciiBytes timestamp).map (fun byte => Char.ofNat byte.toNat) = timestamp := by
  rw [asciiBytes, List.map_map]
  refine (List.map_congr_left fun c hc => ?_).trans (List.map_id timestamp)
  rw [Function.comp_apply, toNat_ofNat_of_isDigit (h c hc), Char.ofNat_toNat, id]

theorem asciiBytes_inj (h : ∀ c ∈ timestamp, c.isDigit = true)
    (h' : ∀ c ∈ timestamp', c.isDigit = true) (heq : asciiBytes timestamp = asciiBytes timestamp') :
    timestamp = timestamp' := by
  rw [← map_asciiBytes h, heq, map_asciiBytes h']

theorem signingInput_eq_ok_iff {signed : List UInt8} : signingInput timestamp body = .ok signed ↔
    timestampPattern timestamp = true ∧
      Splunk.signingContext ++ asciiBytes timestamp ++ 10 :: body = signed := by
  unfold signingInput parseTimestamp
  by_cases hpattern : timestampPattern timestamp = true
  · simp [hpattern, bind, Except.bind, pure, Except.pure]
  · simp [hpattern, bind, Except.bind]

/-- The signed bytes decide what was signed. -/
theorem signingInput_unique {signed : List UInt8} (h : signingInput timestamp body = .ok signed)
    (h' : signingInput timestamp' body' = .ok signed) : timestamp = timestamp' ∧ body = body' := by
  obtain ⟨hpattern, rfl⟩ := signingInput_eq_ok_iff.mp h
  obtain ⟨hpattern', heq⟩ := signingInput_eq_ok_iff.mp h'
  rw [List.append_assoc, List.append_assoc] at heq
  have hdigits := digits_of_timestampPattern hpattern
  have hdigits' := digits_of_timestampPattern hpattern'
  obtain ⟨hbytes, hbody⟩ := append_separator_inj (lineFeed_notMem_asciiBytes hdigits')
    (lineFeed_notMem_asciiBytes hdigits) (List.append_cancel_left heq)
  exact ⟨(asciiBytes_inj hdigits' hdigits hbytes).symm, hbody.symm⟩

end Signatures

section Verification

variable {clock : ClockValue} {timestamp : List Char} {secret : List UInt8}

/-- A timestamp the sender makes is read as the seconds its clock shows. -/
theorem parseTimestamp_of_clock (h : timestampFromClock clock = .ok timestamp) :
    ∃ seconds : Nat, parseTimestamp (some timestamp) = .ok seconds ∧
      (seconds : ℤ) = clock.wholeSeconds ∧ timestampPattern timestamp = true := by
  unfold timestampFromClock at h
  cases clock with
  | finite value =>
    by_cases hnegative : value < 0
    · simp [hnegative] at h
    · simp only [hnegative, reduceIte] at h
      split at h
      · next hpattern =>
        cases h
        have htruncate : 0 ≤ truncate value :=
          Int.tdiv_nonneg (Rat.num_nonneg.mpr (not_lt.mp hnegative)) (Int.natCast_nonneg _)
        refine ⟨(truncate value).toNat, ?_, Int.toNat_of_nonneg htruncate, hpattern⟩
        rw [parseTimestamp, if_pos hpattern, Nat.ofDigitChars_ten_toDigits]
      · cases h
  | _ => cases h

/-- What the sender's header says. -/
theorem signatureHeader_eq_ok (hmac : Hmac) (hsecret : 32 ≤ secret.length ∧ secret.length ≤ 4096)
    (hpattern : timestampPattern timestamp = true) (body : List UInt8) :
    signatureHeader hmac secret timestamp body = .ok ('v' :: '1' :: '=' :: hexdigest
      (hmac secret (Splunk.signingContext ++ asciiBytes timestamp ++ 10 :: body)).toList) := by
  rw [signatureHeader, validateSecret, minimumSecretBytes, maximumSecretBytes, if_pos hsecret]
  simp [hpattern, bind, Except.bind, pure, Except.pure, signatureVersion, Sender.signingContext,
    Splunk.signingContext]

theorem signatureMatch_hexdigest (digest : Vector UInt8 32) :
    signatureMatch ('v' :: '1' :: '=' :: hexdigest digest.toList) =
      some (hexdigest digest.toList) := by
  have hlength : (hexdigest digest.toList).length = 64 := by
    rw [length_hexdigest, Vector.length_toList]
  have hdigits : (hexdigest digest.toList).all isHexDigit = true :=
    List.all_eq_true.mpr fun c hc => isHexDigit_of_mem_hexdigest hc
  rw [signatureMatch, if_pos ⟨hlength, hdigits⟩]

theorem computeSignature_eq_ok (hmac : Hmac) (hsecret : 32 ≤ secret.length)
    (hpattern : timestampPattern timestamp = true) (body : List UInt8) :
    computeSignature hmac secret timestamp body = .ok (hexdigest
      (hmac secret (Splunk.signingContext ++ asciiBytes timestamp ++ 10 :: body)).toList) := by
  have hsigned : signingInput timestamp body = .ok _ := signingInput_eq_ok_iff.mpr ⟨hpattern, rfl⟩
  rw [computeSignature, validateSharedSecret, minimumSharedSecretBytes, if_neg (by omega), hsigned]
  rfl

/-- A timestamp and a signature that authenticate a body: both are well formed, the timestamp is
within the allowed skew of a clock that knows its zone, read in whole seconds, and the signature is
that of the body under the secret and the timestamp. -/
structure Authenticates (hmac : Hmac) (secret : List UInt8) (timestamp signature : List Char)
    (body : List UInt8) (now : Datetime) (skew : Int) : Prop where
  wellFormed : timestampPattern timestamp = true
  aware : now.isAware = true
  timely : |truncate now.timestamp - (Nat.ofDigitChars 10 timestamp 0 : Nat)| ≤ skew
  signed : signature = 'v' :: '1' :: '=' ::
    hexdigest (hmac secret (Splunk.signingContext ++ asciiBytes timestamp ++ 10 :: body)).toList

theorem signatureMatch_eq_some {signature digits : List Char}
    (h : signatureMatch signature = some digits) : signature = 'v' :: '1' :: '=' :: digits := by
  unfold signatureMatch at h
  split at h
  · next digits' =>
    split at h
    · cases h
      rfl
    · cases h
  · cases h

/-- `verify_signature` lets a body pass exactly if it has one timestamp and one signature, which
authenticate it. -/
theorem verifySignature_eq_ok_iff {hmac : Hmac} {body : List UInt8}
    {timestampHeader signatureHeader : Option (List Char)} {now : Datetime} {skew : Int}
    (hsecret : minimumSharedSecretBytes ≤ secret.length) :
    verifySignature hmac secret timestampHeader signatureHeader body now skew = .ok () ↔
      ∃ timestamp signature, timestampHeader = some timestamp ∧ signatureHeader = some signature ∧
        Authenticates hmac secret timestamp signature body now skew := by
  unfold verifySignature
  by_cases hskew : skew < 0
  · simp only [hskew, reduceIte, throw, throwThe, MonadExceptOf.throw, bind, Except.bind,
      reduceCtorEq, false_iff]
    rintro ⟨timestamp, signature, -, -, hauthenticates⟩
    have hnonneg := (abs_nonneg _).trans hauthenticates.timely
    omega
  by_cases haware : now.isAware = true
  swap
  · simp only [hskew, haware, reduceIte, throw, throwThe, MonadExceptOf.throw, bind, Except.bind,
      pure, Except.pure, Bool.not_false, reduceCtorEq, false_iff]
    rintro ⟨timestamp, signature, -, -, hauthenticates⟩
    exact haware hauthenticates.aware
  simp only [hskew, haware, reduceIte, Bool.not_true, Bool.false_eq_true, bind, Except.bind, pure,
    Except.pure]
  cases timestampHeader with
  | none =>
      refine iff_of_false (by simp [parseTimestamp]) ?_
      rintro ⟨timestamp, signature, hnone, -, -⟩
      cases hnone
  | some timestamp =>
      by_cases hpattern : timestampPattern timestamp = true
      swap
      · refine iff_of_false (by simp [parseTimestamp, hpattern]) ?_
        rintro ⟨timestamp', signature, heq, -, hauthenticates⟩
        cases heq
        exact hpattern hauthenticates.wellFormed
      simp only [parseTimestamp, hpattern, reduceIte]
      cases signatureHeader with
      | none =>
          refine iff_of_false (by simp [throw, throwThe, MonadExceptOf.throw]) ?_
          rintro ⟨timestamp', signature, -, hnone, -⟩
          cases hnone
      | some signature =>
          have hcompute := computeSignature_eq_ok hmac hsecret hpattern body
          cases hmatch : signatureMatch signature with
          | none =>
              simp only [hmatch, throw, throwThe, MonadExceptOf.throw, reduceCtorEq, false_iff]
              rintro ⟨timestamp', signature', heq, heq', hauthenticates⟩
              cases heq
              cases heq'
              rw [hauthenticates.signed, signatureMatch_hexdigest] at hmatch
              cases hmatch
          | some digits =>
              simp only [hmatch, hcompute, ne_eq, ite_not, throw, throwThe, MonadExceptOf.throw]
              constructor
              · intro h
                split at h
                · cases h
                · next htimely =>
                  split at h
                  · next hsigned =>
                    refine ⟨timestamp, signature, rfl, rfl, hpattern, haware, not_lt.mp htimely, ?_⟩
                    rw [signatureMatch_eq_some hmatch, hsigned]
                  · cases h
              · rintro ⟨timestamp', signature', heq, heq', hauthenticates⟩
                cases heq
                cases heq'
                rw [hauthenticates.signed, signatureMatch_hexdigest, Option.some.injEq] at hmatch
                rw [if_neg (not_lt.mpr hauthenticates.timely), if_pos hmatch]

/-- A header of the sender is verified while the clocks agree. -/
theorem verifySignature_iff (hmac : Hmac) (hsecret : 32 ≤ secret.length)
    (h : timestampFromClock clock = .ok timestamp) (body : List UInt8) {now : Datetime}
    (hnow : now.isAware = true) (skew : ℤ) :
    verifySignature hmac secret (some timestamp) (some ('v' :: '1' :: '=' :: hexdigest
        (hmac secret (Splunk.signingContext ++ asciiBytes timestamp ++ 10 :: body)).toList))
        body now skew = .ok () ↔
      |truncate now.timestamp - clock.wholeSeconds| ≤ skew := by
  obtain ⟨seconds, hparse, hseconds, hpattern⟩ := parseTimestamp_of_clock h
  rw [parseTimestamp, if_pos hpattern, Except.ok.injEq] at hparse
  rw [verifySignature_eq_ok_iff hsecret, ← hseconds, ← hparse]
  constructor
  · rintro ⟨timestamp', signature, heq, -, hauthenticates⟩
    cases heq
    exact hauthenticates.timely
  · intro htimely
    exact ⟨_, _, rfl, rfl, hpattern, hnow, htimely, rfl⟩

end Verification

/-- **The two programs agree on authentication.** Each loads from a file what the other loads from
it, and whatever the sender signs the gateway verifies exactly while the clocks are not further
apart than the skew. A signed text comes of one timestamp and body only. -/
theorem authentication_agrees (hmac : Hmac) :
    (∀ content secret, loadSecret content = .ok secret ↔ loadSharedSecret content = .ok secret) ∧
    (∀ content secret, loadSecret content = .ok secret →
      ∀ clock timestamp, timestampFromClock clock = .ok timestamp → ∀ body, ∃ signature,
        signatureHeader hmac secret timestamp body = .ok signature ∧
        ∀ now skew, now.isAware = true →
          (verifySignature hmac secret (some timestamp) (some signature) body now skew = .ok () ↔
            |truncate now.timestamp - clock.wholeSeconds| ≤ skew)) ∧
    ∀ timestamp timestamp' body body' signed, signingInput timestamp body = .ok signed →
      signingInput timestamp' body' = .ok signed → timestamp = timestamp' ∧ body = body' := by
  refine ⟨?_, ?_, ?_⟩
  · intro content secret
    rw [loadSecret_eq_ok_iff, loadSharedSecret_eq_ok_iff]
  · intro content secret hload clock timestamp hclock body
    obtain ⟨-, -, hsecret⟩ := loadSecret_eq_ok_iff.mp hload
    obtain ⟨-, -, -, hpattern⟩ := parseTimestamp_of_clock hclock
    refine ⟨_, signatureHeader_eq_ok hmac hsecret hpattern body, fun now skew hnow => ?_⟩
    exact verifySignature_iff hmac hsecret.1 hclock body hnow skew
  · intro timestamp timestamp' body body' signed h h'
    exact signingInput_unique h h'

end Alert2IR
