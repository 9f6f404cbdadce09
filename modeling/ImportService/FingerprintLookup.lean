/-
This file models the lookup of stored fingerprints and asks when it answers for every requested
key. The rows are found by provider and transaction id, but the map that is returned has the two
joined with a colon, which a provider may contain. So it answers for all keys exactly when no key
is joined to the same text as a row that is found, but has another answer
(`findFingerprints_exact_iff`); without a colon in the providers no two keys are joined to the same
text (`joinKey_inj`).
-/

import ImportService.Repositories

namespace ImportService

open KeyedTable JsString

namespace TransactionRepository

/-! ### findFingerprints -/

/-- `findMany` with one alternative for each key, which is sent in UTF-8. The database returns the
rows in any order. -/
def findMany (keys : List TransactionKey) (db : Database) : List TransactionRow :=
  db.transactions.filter fun row => row.key ∈ keys.map storedKey

/-- `${provider}:${transactionId}` -/
def joinKey (key : TransactionKey) : JsString := key.1 ++ JsString.ofString ":" ++ key.2

/-- What is made of the rows that are returned. -/
def fingerprintMap (rows : List TransactionRow) : JsString → Option JsString :=
  indexed (fun row => joinKey row.key) (fun row => row.fingerprint) rows

/-- The map for the keys, once the query has returned the rows. -/
def findFingerprints (keys : List TransactionKey) (rows : List TransactionRow) :
    JsString → Option JsString :=
  if keys.length = 0 then fun _ => none else fingerprintMap rows

/-- The keys in the table are texts in UTF-8. -/
def InUTF8 (db : Database) : Prop := ∀ row ∈ db.transactions, storedKey row.key = row.key

/-- A batch adds no other keys. -/
theorem InUTF8.persistBatch {db : Database} (inUTF8 : InUTF8 db) (input : PersistBatchInput)
    (now : Nat) : InUTF8 (persistBatch input now db) := by
  intro row member
  rcases List.mem_append.mp member with old | added
  · exact inUTF8 row old
  · obtain ⟨scored, _, rfl⟩ := List.mem_map.mp
      ((landing_sublist TransactionRow.key db.transactions (values input)).subset added)
    exact storedKey_storedKey scored.transaction.key

/-- The fingerprint of the row with a key. -/
def storedFingerprint (db : Database) (key : TransactionKey) : Option JsString :=
  (lookup TransactionRow.key db.transactions key).map fun row => row.fingerprint

/-! ### When it is exact -/

/-- Whatever the order in which the rows are returned, there is for each key, under the text it is
joined to, the fingerprint of its row, and nothing if it has none. -/
def FindsExactly (db : Database) (keys : List TransactionKey) : Prop :=
  ∀ rows, rows.Perm (findMany keys db) → ∀ key ∈ keys,
    findFingerprints keys rows (joinKey key) = storedFingerprint db key

/-- A key that is joined to the same text as a row that is found, for it or another key, has the
fingerprint of that row. -/
def ToldApart (db : Database) (keys : List TransactionKey) : Prop :=
  ∀ key ∈ keys, ∀ other ∈ keys, joinKey key = joinKey (storedKey other) →
    ∀ fingerprint, storedFingerprint db (storedKey other) = some fingerprint →
      storedFingerprint db key = some fingerprint

/-- What stands before the first colon of a joined key is its provider, if that has none. -/
theorem takeWhile_joinKey {key : TransactionKey} (free : 0x3a ∉ key.1) :
    (joinKey key).takeWhile (fun unit => unit != 0x3a) = key.1 := by
  have colon : (JsString.ofString ":" ++ key.2).takeWhile (fun unit => unit != 0x3a) = [] := rfl
  rw [joinKey, List.append_assoc, List.takeWhile_append_of_pos, colon, List.append_nil]
  intro unit member
  rw [bne_iff_ne]
  rintro rfl
  exact free member

theorem joinKey_inj {key other : TransactionKey} (free : 0x3a ∉ key.1) (otherFree : 0x3a ∉ other.1)
    (same : joinKey key = joinKey other) : key = other := by
  have providers : key.1 = other.1 := by
    rw [← takeWhile_joinKey free, ← takeWhile_joinKey otherFree, same]
  rw [joinKey, joinKey, ← providers] at same
  exact Prod.ext providers (List.append_cancel_left same)

/-- Without a colon in the providers there is nothing to tell apart. -/
theorem toldApart_of_free {db : Database} {keys : List TransactionKey}
    (free : ∀ key ∈ keys, 0x3a ∉ key.1) : ToldApart db keys := by
  intro key member other otherMember same fingerprint found
  have otherFree : 0x3a ∉ (storedKey other).1 :=
    not_mem_toWellFormed (by decide) (by decide) (free other otherMember)
  rw [joinKey_inj (free key member) otherFree same, found]

/-- The lookup is exact for keys that are told apart, and for no others. -/
theorem findFingerprints_exact_iff (db : Database)
    (distinct : (db.transactions.map TransactionRow.key).Nodup) (inUTF8 : InUTF8 db)
    (keys : List TransactionKey) :
    FindsExactly db keys ↔ ToldApart db keys := by
  cases keys with
  | nil =>
    refine iff_of_true (fun rows _ key member => ?_) fun key member => ?_
    · exact absurd member List.not_mem_nil
    · exact absurd member List.not_mem_nil
  | cons first rest =>
    have asked : (first :: rest).length ≠ 0 := Nat.succ_ne_zero rest.length
    simp only [FindsExactly, findFingerprints, if_neg asked]
    exact indexed_exact_iff TransactionRow.key distinct joinKey (fun row => row.fingerprint)
      (fun row => decide_eq_true_iff) inUTF8

/-! ### A key in the place of another -/

/-- A table with the transaction `eu:7` of the provider `acme`. -/
def acmeStored : Database :=
  { Database.empty with
    transactions :=
      [{ transaction :=
          { provider := JsString.ofString "acme"
            transactionId := JsString.ofString "eu:7"
            accountId := JsString.ofString "a1"
            merchantId := JsString.ofString "m1"
            amount := 5
            currency := JsString.ofString "EUR"
            timestamp := 0
            description := none }
         fingerprint := JsString.ofString "v1:0f"
         riskScore := 0
         riskLevel := .LOW
         importId := 0 }] }

/-- The key of the row that is stored, and a key of the provider `acme:eu` that no row has. -/
def acmeKeys : List TransactionKey :=
  [(JsString.ofString "acme", JsString.ofString "eu:7"),
    (JsString.ofString "acme:eu", JsString.ofString "7")]

theorem acmeStored_distinct : (acmeStored.transactions.map TransactionRow.key).Nodup :=
  List.nodup_singleton _

theorem acmeStored_inUTF8 : InUTF8 acmeStored := by
  unfold InUTF8
  decide

/-- Asked for the stored key and for one that no row has, the lookup has the one fingerprint. -/
theorem findFingerprints_exact_iff_acme :
    storedFingerprint acmeStored (JsString.ofString "acme", JsString.ofString "eu:7") =
        some (JsString.ofString "v1:0f") ∧
      storedFingerprint acmeStored (JsString.ofString "acme", JsString.ofString "eu:8") = none ∧
      FindsExactly acmeStored
        [(JsString.ofString "acme", JsString.ofString "eu:7"),
          (JsString.ofString "acme", JsString.ofString "eu:8")] := by
  refine ⟨by decide, by decide,
    (findFingerprints_exact_iff acmeStored acmeStored_distinct acmeStored_inUTF8 _).mpr ?_⟩
  exact toldApart_of_free (by decide)

/-- Asked for both keys it has one for the key that is not stored: the validator accepts the
provider and the id of both, and they are joined to the same text. -/
theorem acmeKeys_notExact :
    (∀ key ∈ acmeKeys, normalizeRequiredString (some (.string key.1)) = some key.1 ∧
      normalizeRequiredString (some (.string key.2)) = some key.2) ∧
    (acmeStored.transactions.map TransactionRow.key).Nodup ∧ InUTF8 acmeStored ∧
      ¬ FindsExactly acmeStored acmeKeys := by
  refine ⟨by decide, acmeStored_distinct, acmeStored_inUTF8, fun exactly => ?_⟩
  have answer := exactly _ (List.Perm.refl _) (JsString.ofString "acme:eu", JsString.ofString "7")
    (by decide)
  have found : findFingerprints acmeKeys (findMany acmeKeys acmeStored)
      (JsString.ofString "acme:eu:7") = some (JsString.ofString "v1:0f") := by decide
  have absent : storedFingerprint acmeStored
      (JsString.ofString "acme:eu", JsString.ofString "7") = none := by decide
  rw [absent] at answer
  exact absurd (found.symm.trans answer) (by decide)

end TransactionRepository

end ImportService
