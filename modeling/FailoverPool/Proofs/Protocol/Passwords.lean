import FailoverPool.Proofs.Text.Base64
import FailoverPool.Protocol.Greeting

/-!
The proof of a password convinces a server that does not know the password.

A server keeps the digest of the password's digest (`keptOf`). With it and the salt it uncovers what
a proof covers, the digest of the password, and knows it by its digest (`Accepts`). Main statement:
`convinces_of_scramble`.
-/

namespace FailoverPool

namespace Bytes

theorem length_xor (left right : Bytes) :
    (left.xor right).length = min left.length right.length := by
  simp [xor]

/-- What was covered is uncovered by the same cover. -/
theorem xor_xor {left right : Bytes} (isCovered : left.length ≤ right.length) :
    (left.xor right).xor right = left := by
  apply List.ext_getElem
  · simp only [length_xor]
    omega
  · intro place _ _
    simp only [xor, List.getElem_zipWith, UInt8.xor_assoc, UInt8.xor_self, UInt8.xor_zero]

end Bytes

/-- The text is the writing of bytes, and there are enough of them. -/
structure SpellsSalt (text : String) (salt : Bytes) : Prop where
  written : Utf8.encode text = Base64.encode salt
  length : scrambleSize ≤ salt.length

namespace SpellsSalt

variable {text : String} {salt : Bytes}

theorem scramble_eq (spells : SpellsSalt text salt) (password : String) :
    scramble text password = .ok (scrambleBytes salt (Utf8.encode password)) := by
  have isRead : Base64.decode (Utf8.encode text) = .ok salt :=
    Base64.decode_eq_ok_iff.mpr spells.written
  simp [scramble, isRead, Nat.not_lt.mpr spells.length]

end SpellsSalt

/-- A text that spells no salt is refused, and so are all passwords. -/
theorem scramble_of_unspelled {text : String} (isUnspelled : ¬ ∃ salt, SpellsSalt text salt)
    (password : String) : ∃ fault, scramble text password = .error (.protocol fault) := by
  unfold scramble
  split
  · exact ⟨_, rfl⟩
  · next salt isRead =>
    split
    · exact ⟨_, rfl⟩
    · next isLong =>
      exact absurd ⟨salt, Base64.decode_eq_ok_iff.mp isRead, Nat.not_lt.mp isLong⟩ isUnspelled

/-- What a server keeps of a password. -/
def keptOf (password : Bytes) : Bytes := Sha1.digest (Sha1.digest password)

/-- The check of a server that has sent a salt: what it uncovers has the digest that it keeps. -/
def Accepts (kept salt proof : Bytes) : Prop :=
  Sha1.digest (proof.xor (Sha1.digest (salt.take scrambleSize ++ kept))) = kept

/-- A proof of the password, for a salt. -/
structure Convinces (salt password proof : Bytes) : Prop where
  length : proof.length = scrambleSize
  /-- Covered once more it is the password's digest. -/
  uncovered : proof.xor (Sha1.digest (salt.take scrambleSize ++ keptOf password)) =
    Sha1.digest password
  accepted : Accepts (keptOf password) salt proof

theorem convinces_scrambleBytes (salt password : Bytes) :
    Convinces salt password (scrambleBytes salt password) := by
  have isUncovered : (scrambleBytes salt password).xor
      (Sha1.digest (salt.take scrambleSize ++ keptOf password)) = Sha1.digest password := by
    apply Bytes.xor_xor
    simp [Sha1.length_digest]
  constructor
  · simp [scrambleBytes, Bytes.length_xor, Sha1.length_digest, scrambleSize]
  · exact isUncovered
  · exact congrArg Sha1.digest isUncovered

/-- The proof of a password always verifies. It is given for the texts that spell a salt, and for
these it convinces every server that has sent the salt and keeps the digest of the password's
digest. All other texts are refused as a breach of protocol. Only the bytes of the salt that count
matter. -/
theorem convinces_of_scramble (text password : String) :
    ((∃ proof, scramble text password = .ok proof) ↔ ∃ salt, SpellsSalt text salt) ∧
    ((¬ ∃ salt, SpellsSalt text salt) →
      ∃ fault, scramble text password = .error (.protocol fault)) ∧
    (∀ salt proof, SpellsSalt text salt → scramble text password = .ok proof →
      Convinces salt (Utf8.encode password) proof) ∧
    ∀ other salt otherSalt, SpellsSalt text salt → SpellsSalt other otherSalt →
      salt.take scrambleSize = otherSalt.take scrambleSize →
        scramble text password = scramble other password := by
  refine ⟨⟨?_, ?_⟩, fun isUnspelled => scramble_of_unspelled isUnspelled password, ?_, ?_⟩
  · rintro ⟨proof, isProof⟩
    by_contra isUnspelled
    obtain ⟨fault, isRefused⟩ := scramble_of_unspelled isUnspelled password
    rw [isProof] at isRefused
    cases isRefused
  · rintro ⟨salt, spells⟩
    exact ⟨_, spells.scramble_eq password⟩
  · intro salt proof spells isProof
    rw [spells.scramble_eq password] at isProof
    cases isProof
    exact convinces_scrambleBytes salt (Utf8.encode password)
  · intro other salt otherSalt spells spellsOther same
    rw [spells.scramble_eq password, spellsOther.scramble_eq password, scrambleBytes, scrambleBytes,
      same]

/-- A salt of which a part counts, the same part alone, and a text of three bytes. -/
theorem convinces_of_secret :
    let text := "BwcHBwcHBwcHBwcHBwcHBwcHBwcHBwcHBwcHBwcHBwc="
    let other := "BwcHBwcHBwcHBwcHBwcHBwcHBwc="
    SpellsSalt text (List.replicate 32 7) ∧ SpellsSalt other (List.replicate 20 7) ∧
      (∃ proof, scramble text "secret" = .ok proof ∧ scramble other "secret" = .ok proof ∧
        Convinces (List.replicate 32 7) (Utf8.encode "secret") proof) ∧
      (¬ ∃ salt, SpellsSalt "BwcH" salt) ∧
      ∃ fault, scramble "BwcH" "secret" = .error (.protocol fault) := by
  intro text other
  have spells : SpellsSalt text (List.replicate 32 7) := ⟨by decide +kernel, by decide⟩
  have spellsOther : SpellsSalt other (List.replicate 20 7) := ⟨by decide +kernel, by decide⟩
  have isWritten : Utf8.encode "BwcH" = Base64.encode [7, 7, 7] := by decide +kernel
  have isUnspelled : ¬ ∃ salt, SpellsSalt "BwcH" salt := by
    rintro ⟨salt, spellsShort⟩
    have isShort := spellsShort.length
    rw [← Base64.encode_injective (isWritten.symm.trans spellsShort.written)] at isShort
    exact absurd isShort (by decide)
  obtain ⟨isGiven, _, convinces, same⟩ := convinces_of_scramble text "secret"
  obtain ⟨proof, isProof⟩ := isGiven.mpr ⟨_, spells⟩
  refine ⟨spells, spellsOther, ⟨proof, isProof, ?_, convinces _ proof spells isProof⟩, isUnspelled,
    (convinces_of_scramble "BwcH" "secret").2.1 isUnspelled⟩
  exact (same other _ _ spells spellsOther (by decide)).symm.trans isProof

end FailoverPool
