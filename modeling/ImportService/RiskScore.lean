/-
This file models the risk score of a transaction over the real numbers, with SHA-256 as any
function to digests, and proves its bounds and in which direction it goes with the amount and
with the description.

Five signals between zero and one are weighted with weights that sum to one, and the sum is
clamped and rounded to two decimals. Every stage keeps the order (`assess_mono`), so what makes
one signal larger makes the score no smaller, and the level no lower.
-/

import Mathlib.Analysis.SpecialFunctions.Log.Base
import Mathlib.Analysis.SpecialFunctions.Trigonometric.Basic
import ImportService.ProcessImportFile

namespace ImportService.RiskScore

/-! ### The score -/

/-- The 32 bytes of a SHA-256 digest. -/
abbrev Digest := Vector UInt8 32

/-- `createHash('sha256')`, updated with the UTF-8 form of a text, or with a digest. -/
structure Sha256 where
  ofText : JsString → Digest
  ofDigest : Digest → Digest

/-- The first two bytes of the digest. -/
def readUInt16BE (digest : Digest) : Nat := 256 * digest[0].toNat + digest[1].toNat

/-- The first four bytes of the digest. -/
def readUInt32BE (digest : Digest) : Nat :=
  256 * (256 * readUInt16BE digest + digest[2].toNat) + digest[3].toNat

/-- The score with its level. -/
structure RiskAssessment where
  score : Rat
  level : RiskLevel
  deriving DecidableEq

/-- `clamp01`; `none` is no number. -/
noncomputable def clamp01 : Option ℝ → ℝ
  | none => 0
  | some value => min 1 (max 0 value)

/-- `Math.log10`. Of zero it is no real number either, but clamped it is the same. -/
noncomputable def log10 (value : ℝ) : Option ℝ :=
  if value < 0 then none else some (Real.logb 10 value)

/-- The amount from which on the signal is the largest. -/
def AMOUNT_SATURATION : Rat := 10000

/-- The logarithm of the share of the saturation. -/
noncomputable def scoreAmount (amount : Rat) : ℝ :=
  let ratio := min amount AMOUNT_SATURATION / AMOUNT_SATURATION
  clamp01 (log10 (1 + 9 * (ratio : ℝ)))

/-- The hour of the day in UTC. -/
def getUTCHours (timestamp : Int) : Nat := (timestamp % JsDate.msPerDay).toNat / 3600000

/-- A cosine over the day that is largest at two in the morning. -/
noncomputable def scoreHour (timestamp : Int) : ℝ :=
  let hour : Int := getUTCHours timestamp
  let radians := ((hour - 2 + 24) % 24 : Int) * (Real.pi / 12)
  clamp01 (some ((Real.cos radians + 1) / 2))

/-- The number of buckets of merchants. -/
def MERCHANT_BUCKETS : Nat := 16

/-- The bucket of the merchant by its hash. -/
noncomputable def scoreMerchant (sha256 : Sha256) (merchantId : JsString) : ℝ :=
  let bucket := readUInt16BE (sha256.ofText merchantId) % MERCHANT_BUCKETS
  (bucket : ℝ) / (MERCHANT_BUCKETS - 1)

/-- The shorter the description, the larger the signal. -/
noncomputable def scoreDescription : Option JsString → ℝ
  | none => 1
  | some description =>
      if 40 ≤ description.length then 0 else clamp01 (some (1 - description.length / 40))

/-- `HASH_ROUNDS` is the number of times the digest is hashed again. -/
noncomputable def scoreEntropy (sha256 : Sha256) (hashRounds : Nat) (fingerprint : JsString) : ℝ :=
  let digest := sha256.ofDigest^[hashRounds] (sha256.ofText fingerprint)
  (readUInt32BE digest : ℝ) / 0xffffffff

/-- The level of a score. -/
def toLevel (score : Rat) : RiskLevel :=
  if 70 ≤ score then .HIGH else if 40 ≤ score then .MEDIUM else .LOW

/-- The five signals of a transaction. -/
structure Signals where
  amount : ℝ
  hour : ℝ
  merchant : ℝ
  description : ℝ
  entropy : ℝ

/-- The five signals of a transaction. -/
noncomputable def signals (sha256 : Sha256) (hashRounds : Nat) (transaction : ValidatedTransaction)
    (fingerprint : JsString) : Signals where
  amount := scoreAmount transaction.amount
  hour := scoreHour transaction.timestamp
  merchant := scoreMerchant sha256 transaction.merchantId
  description := scoreDescription transaction.description
  entropy := scoreEntropy sha256 hashRounds fingerprint

/-- The signals with their `WEIGHTS`. -/
noncomputable def weighted (signals : Signals) : ℝ :=
  signals.amount * 0.35 + signals.hour * 0.2 + signals.merchant * 0.2 +
    signals.description * 0.15 + signals.entropy * 0.1

/-- `Math.round`: to the nearest integer, halves upwards. -/
noncomputable def round (value : ℝ) : Int := ⌊value + 1 / 2⌋

/-- The weighted sum in percent, with two decimals, and its level. -/
noncomputable def assess (weighted : ℝ) : RiskAssessment :=
  let score : Rat := round (clamp01 (some weighted) * 100 * 100) / 100
  { score, level := toLevel score }

/-- The risk score of a transaction. -/
noncomputable def computeRiskScore (sha256 : Sha256) (hashRounds : Nat)
    (transaction : ValidatedTransaction) (fingerprint : JsString) : RiskAssessment :=
  assess (weighted (signals sha256 hashRounds transaction fingerprint))

/-! ### Stages that keep the order -/

theorem clamp01_nonneg (value : Option ℝ) : 0 ≤ clamp01 value := by
  cases value with
  | none => exact le_refl 0
  | some value => exact le_min zero_le_one (le_max_left 0 value)

theorem clamp01_le_one (value : Option ℝ) : clamp01 value ≤ 1 := by
  cases value with
  | none => exact zero_le_one
  | some value => exact min_le_left 1 _

theorem clamp01_mono {value other : ℝ} (le : value ≤ other) :
    clamp01 (some value) ≤ clamp01 (some other) :=
  min_le_min_left 1 (max_le_max_left 0 le)

theorem clamp01_log10_mono {value other : ℝ} (le : value ≤ other) :
    clamp01 (log10 value) ≤ clamp01 (log10 other) := by
  by_cases positive : 0 < value
  · rw [log10, log10, if_neg (not_lt.mpr positive.le), if_neg (not_lt.mpr (positive.le.trans le))]
    exact clamp01_mono (Real.logb_le_logb_of_le (by norm_num) positive le)
  · have least : clamp01 (log10 value) = 0 := by
      rcases (not_lt.mp positive).lt_or_eq with negative | zero
      · rw [log10, if_pos negative, clamp01]
      · rw [log10, zero, if_neg (lt_irrefl 0), Real.logb_zero, clamp01, max_self,
          min_eq_right zero_le_one]
    rw [least]
    exact clamp01_nonneg _

theorem scoreAmount_mono {amount other : Rat} (le : amount ≤ other) :
    scoreAmount amount ≤ scoreAmount other := by
  refine clamp01_log10_mono ?_
  have ratio : min amount AMOUNT_SATURATION / AMOUNT_SATURATION ≤
      min other AMOUNT_SATURATION / AMOUNT_SATURATION :=
    div_le_div_of_nonneg_right (min_le_min_right _ le) (by decide)
  have ratioReal := (Rat.cast_le (K := ℝ)).mpr ratio
  linarith

theorem scoreAmount_of_saturated {amount : Rat} (saturated : AMOUNT_SATURATION ≤ amount) :
    scoreAmount amount = scoreAmount AMOUNT_SATURATION := by
  rw [scoreAmount, scoreAmount, min_eq_right saturated, min_self]

theorem scoreDescription_nonneg (description : Option JsString) :
    0 ≤ scoreDescription description := by
  cases description with
  | none => exact zero_le_one
  | some text =>
    rw [scoreDescription]
    split
    · exact le_refl 0
    · exact clamp01_nonneg _

theorem scoreDescription_le_one (description : Option JsString) :
    scoreDescription description ≤ 1 := by
  cases description with
  | none => exact le_refl 1
  | some text =>
    rw [scoreDescription]
    split
    · exact zero_le_one
    · exact clamp01_le_one _

theorem scoreDescription_anti {text longer : JsString} (le : text.length ≤ longer.length) :
    scoreDescription (some longer) ≤ scoreDescription (some text) := by
  by_cases detailed : 40 ≤ longer.length
  · have none : scoreDescription (some longer) = 0 := by rw [scoreDescription, if_pos detailed]
    rw [none]
    exact scoreDescription_nonneg _
  · rw [scoreDescription, scoreDescription, if_neg detailed,
      if_neg fun others => detailed (others.trans le)]
    refine clamp01_mono (sub_le_sub_left ?_ 1)
    exact div_le_div_of_nonneg_right (Nat.cast_le.mpr le) (by norm_num)

/-- The order of the levels. -/
def rank : RiskLevel → Nat
  | .LOW => 0
  | .MEDIUM => 1
  | .HIGH => 2

theorem toLevel_mono {score other : Rat} (le : score ≤ other) :
    rank (toLevel score) ≤ rank (toLevel other) := by
  rw [toLevel, toLevel]
  by_cases high : 70 ≤ score
  · rw [if_pos high, if_pos (high.trans le)]
  · rw [if_neg high]
    by_cases medium : 40 ≤ score
    · rw [if_pos medium, if_pos (medium.trans le)]
      split <;> decide
    · rw [if_neg medium]
      exact Nat.zero_le _

/-- Neither the score nor the level of the one is above that of the other. -/
structure AtMost (assessment other : RiskAssessment) : Prop where
  score : assessment.score ≤ other.score
  level : rank assessment.level ≤ rank other.level

theorem round_mono {value other : ℝ} (le : value ≤ other) : round value ≤ round other :=
  Int.floor_mono (add_le_add_left le _)

theorem assess_mono {sum other : ℝ} (le : sum ≤ other) : AtMost (assess sum) (assess other) := by
  have score : (assess sum).score ≤ (assess other).score := by
    have clamped := clamp01_mono le
    have hundred : (0 : ℝ) ≤ 100 := by norm_num
    have rounded := round_mono
      (mul_le_mul_of_nonneg_right (mul_le_mul_of_nonneg_right clamped hundred) hundred)
    exact div_le_div_of_nonneg_right (Int.cast_le.mpr rounded) (by norm_num)
  exact ⟨score, toLevel_mono score⟩

/-! ### Bounds -/

/-- A signal that lies between zero and one. -/
def IsSignal (value : ℝ) : Prop := 0 ≤ value ∧ value ≤ 1

theorem isSignal_clamp01 (value : Option ℝ) : IsSignal (clamp01 value) :=
  ⟨clamp01_nonneg value, clamp01_le_one value⟩

theorem isSignal_scoreHour (timestamp : Int) : IsSignal (scoreHour timestamp) := by
  rw [scoreHour]
  exact isSignal_clamp01 _

theorem isSignal_div {value limit : Nat} (positive : 0 < limit) (le : value ≤ limit) :
    IsSignal ((value : ℝ) / limit) := by
  have limitPositive : (0 : ℝ) < limit := Nat.cast_pos.mpr positive
  exact ⟨by positivity, (div_le_one limitPositive).mpr (Nat.cast_le.mpr le)⟩

theorem isSignal_scoreMerchant (sha256 : Sha256) (merchantId : JsString) :
    IsSignal (scoreMerchant sha256 merchantId) := by
  have bucket := Nat.mod_lt (readUInt16BE (sha256.ofText merchantId))
    (by decide : 0 < MERCHANT_BUCKETS)
  have limit : (MERCHANT_BUCKETS : ℝ) - 1 = ((MERCHANT_BUCKETS - 1 : Nat) : ℝ) :=
    (Nat.cast_pred (by decide)).symm
  rw [scoreMerchant, limit]
  exact isSignal_div (by decide) (Nat.le_pred_of_lt bucket)

theorem readUInt32BE_le (digest : Digest) : readUInt32BE digest ≤ 0xffffffff := by
  have first := digest[0].toNat_lt
  have second := digest[1].toNat_lt
  have third := digest[2].toNat_lt
  have fourth := digest[3].toNat_lt
  rw [readUInt32BE, readUInt16BE]
  omega

theorem isSignal_scoreEntropy (sha256 : Sha256) (hashRounds : Nat) (fingerprint : JsString) :
    IsSignal (scoreEntropy sha256 hashRounds fingerprint) := by
  have signal := isSignal_div (by decide : 0 < 0xffffffff)
    (readUInt32BE_le (sha256.ofDigest^[hashRounds] (sha256.ofText fingerprint)))
  rw [Nat.cast_ofNat] at signal
  exact signal

/-- No signal is lost in the clamp of the sum. -/
theorem clamp01_weighted (sha256 : Sha256) (hashRounds : Nat) (transaction : ValidatedTransaction)
    (fingerprint : JsString) :
    clamp01 (some (weighted (signals sha256 hashRounds transaction fingerprint))) =
      weighted (signals sha256 hashRounds transaction fingerprint) := by
  obtain ⟨amountNonneg, amountLe⟩ : IsSignal (scoreAmount transaction.amount) :=
    isSignal_clamp01 _
  obtain ⟨hourNonneg, hourLe⟩ := isSignal_scoreHour transaction.timestamp
  obtain ⟨merchantNonneg, merchantLe⟩ := isSignal_scoreMerchant sha256 transaction.merchantId
  obtain ⟨entropyNonneg, entropyLe⟩ := isSignal_scoreEntropy sha256 hashRounds fingerprint
  have descriptionNonneg := scoreDescription_nonneg transaction.description
  have descriptionLe := scoreDescription_le_one transaction.description
  rw [clamp01, weighted, signals, max_eq_right (by positivity), min_eq_right]
  norm_num
  linarith

theorem assess_score_mem (sum : ℝ) : ∃ hundredths : Nat,
    hundredths ≤ 10000 ∧ (assess sum).score = hundredths / 100 := by
  obtain ⟨nonneg, leOne⟩ := isSignal_clamp01 (some sum)
  have lower : 0 ≤ round (clamp01 (some sum) * 100 * 100) := by
    refine Int.floor_nonneg.mpr ?_
    positivity
  have upper : round (clamp01 (some sum) * 100 * 100) ≤ 10000 := by
    refine Int.le_of_lt_add_one (Int.floor_lt.mpr ?_)
    push_cast
    linarith
  refine ⟨(round (clamp01 (some sum) * 100 * 100)).toNat, by omega, ?_⟩
  have same := Int.toNat_of_nonneg lower
  rw [assess]
  simp only
  rw [← Int.cast_natCast, same]

/-! ### Scores -/

/-- An assessment has a score between 0 and 100 with two decimals at most, and the level of its
band. -/
structure Banded (assessment : RiskAssessment) : Prop where
  nonneg : 0 ≤ assessment.score
  atMost : assessment.score ≤ 100
  decimals : ∃ hundredths : Nat, assessment.score = hundredths / 100
  high : assessment.level = .HIGH ↔ 70 ≤ assessment.score
  medium : assessment.level = .MEDIUM ↔ 40 ≤ assessment.score ∧ assessment.score < 70
  low : assessment.level = .LOW ↔ assessment.score < 40

theorem toLevel_bands (score : Rat) :
    (toLevel score = .HIGH ↔ 70 ≤ score) ∧
      (toLevel score = .MEDIUM ↔ 40 ≤ score ∧ score < 70) ∧
      (toLevel score = .LOW ↔ score < 40) := by
  rw [toLevel]
  by_cases high : 70 ≤ score
  · have medium : 40 ≤ score := by linarith
    simp [high, not_lt.mpr high, not_lt.mpr medium]
  · by_cases medium : 40 ≤ score
    · simp [high, medium, not_le.mp high]
    · simp [high, medium, not_le.mp medium]

theorem banded_assess (sum : ℝ) : Banded (assess sum) := by
  obtain ⟨hundredths, within, isScore⟩ := assess_score_mem sum
  have atMost : (hundredths : Rat) ≤ 10000 := by exact_mod_cast within
  obtain ⟨high, medium, low⟩ := toLevel_bands (assess sum).score
  refine ⟨?_, ?_, ⟨hundredths, isScore⟩, high, medium, low⟩
  · rw [isScore]
    positivity
  · rw [isScore]
    linarith

/-- The sum grows with the signal of the amount and with that of the description. -/
theorem weighted_mono {first second : Signals} (amount : first.amount ≤ second.amount)
    (description : first.description ≤ second.description) (hour : first.hour = second.hour)
    (merchant : first.merchant = second.merchant) (entropy : first.entropy = second.entropy) :
    weighted first ≤ weighted second := by
  rw [weighted, weighted, hour, merchant, entropy]
  norm_num
  linarith

/-- A score is banded, does not fall as the amount grows and stays the same from the saturation
on, does not rise as the description gets longer, and is highest without one. -/
structure Calibrated (score : ValidatedTransaction → RiskAssessment) : Prop where
  banded : ∀ transaction, Banded (score transaction)
  amount : ∀ (transaction : ValidatedTransaction) (amount larger : Rat), amount ≤ larger →
    AtMost (score { transaction with amount }) (score { transaction with amount := larger })
  saturated : ∀ (transaction : ValidatedTransaction) (amount other : Rat),
    10000 ≤ amount → 10000 ≤ other →
      score { transaction with amount } = score { transaction with amount := other }
  description : ∀ (transaction : ValidatedTransaction) (text longer : JsString),
    text.length ≤ longer.length →
      AtMost (score { transaction with description := some longer })
        (score { transaction with description := some text })
  undescribed : ∀ (transaction : ValidatedTransaction) (description : Option JsString),
    AtMost (score { transaction with description })
      (score { transaction with description := none })

/-- The risk score is calibrated for any SHA-256, any number of hash rounds and any fingerprint. -/
theorem risk_score_calibrated (sha256 : Sha256) (hashRounds : Nat) (fingerprint : JsString) :
    Calibrated fun transaction => computeRiskScore sha256 hashRounds transaction fingerprint where
  banded := fun _ => banded_assess _
  amount := fun _ _ _ le => assess_mono
    (weighted_mono (scoreAmount_mono le) le_rfl rfl rfl rfl)
  saturated := by
    intro transaction amount other amountSaturated otherSaturated
    simp only [computeRiskScore, signals]
    rw [scoreAmount_of_saturated amountSaturated, scoreAmount_of_saturated otherSaturated]
  description := fun _ _ _ le => assess_mono
    (weighted_mono le_rfl (scoreDescription_anti le) rfl rfl rfl)
  undescribed := fun _ description => assess_mono
    (weighted_mono le_rfl (scoreDescription_le_one description) rfl rfl rfl)

/-- What the pool answers where the threads score with it. -/
theorem scoreBatch_banded {ports : Ports} {sha256 : Sha256} {hashRounds : Nat}
    (scores : ∀ transaction fingerprint, ports.computeRiskScore transaction fingerprint =
      ((computeRiskScore sha256 hashRounds transaction fingerprint).score,
        (computeRiskScore sha256 hashRounds transaction fingerprint).level))
    (inputs : List ScoringInput) :
    ∀ output ∈ ports.scoreBatch inputs,
      Banded { score := output.score, level := output.level } := by
  intro output member
  obtain ⟨input, _, rfl⟩ := List.mem_map.mp member
  simp only [scores]
  exact banded_assess _

end ImportService.RiskScore
