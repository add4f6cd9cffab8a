import Custody.Text.Utf8
import Mathlib.Logic.Basic

/-!
# Decoding that keeps bytes loses nothing

Reading bytes as text and writing the text gives the bytes back, whether or not they are
valid.  So two byte strings that are read as the same text are the same.
-/

namespace Custody
namespace Utf8

section Numbers

theorem ofNat_eq {number : Nat} {byte : UInt8} (same : number = byte.toNat) :
    UInt8.ofNat number = byte := by
  rw [same, UInt8.ofNat_toNat]

/-- The code point of a character made from one. -/
theorem val_ofNat {code : Nat} (valid : code.isValidChar) :
    (Char.ofNat code).val.toNat = code := by
  unfold Char.ofNat
  rw [dif_pos valid]
  rfl

variable {lead second third fourth : UInt8}

theorem encode_single (ascii : lead < 0x80) :
    String.utf8EncodeChar (Char.ofNat lead.toNat) = [lead] := by
  have below : lead.toNat < 128 := UInt8.lt_iff_toNat_lt.mp ascii
  have value : (Char.ofNat lead.toNat).val.toNat = lead.toNat := val_ofNat (.inl (by omega))
  unfold String.utf8EncodeChar
  rw [value, if_pos (by omega), ofNat_eq rfl]

theorem encode_pair
    (leads : 0xC2 ≤ lead.toNat ∧ lead.toNat < 0xE0)
    (next : 0x80 ≤ second.toNat ∧ second.toNat ≤ 0xBF) :
    String.utf8EncodeChar (Char.ofNat (lead.toNat % 32 * 64 + second.toNat % 64)) =
      [lead, second] := by
  have value : (Char.ofNat (lead.toNat % 32 * 64 + second.toNat % 64)).val.toNat =
      lead.toNat % 32 * 64 + second.toNat % 64 := val_ofNat (.inl (by omega))
  unfold String.utf8EncodeChar
  rw [value, if_neg (by omega), if_pos (by omega)]
  refine congrArg₂ List.cons (ofNat_eq ?_) (congrArg₂ List.cons (ofNat_eq ?_) rfl) <;> omega

theorem encode_triple
    (leads : 0xE0 ≤ lead.toNat ∧ lead.toNat < 0xF0)
    (next : 0x80 ≤ second.toNat ∧ second.toNat ≤ 0xBF)
    (notShorter : lead.toNat = 0xE0 → 0xA0 ≤ second.toNat)
    (notHalf : lead.toNat = 0xED → second.toNat ≤ 0x9F)
    (last : 0x80 ≤ third.toNat ∧ third.toNat ≤ 0xBF) :
    String.utf8EncodeChar (Char.ofNat
        ((lead.toNat % 16 * 64 + second.toNat % 64) * 64 + third.toNat % 64)) =
      [lead, second, third] := by
  have value : (Char.ofNat
      ((lead.toNat % 16 * 64 + second.toNat % 64) * 64 + third.toNat % 64)).val.toNat =
      (lead.toNat % 16 * 64 + second.toNat % 64) * 64 + third.toNat % 64 := by
    refine val_ofNat ?_
    by_cases early : lead.toNat ≤ 0xED
    · exact .inl (by omega)
    · exact .inr (by omega)
  unfold String.utf8EncodeChar
  rw [value, if_neg (by omega), if_neg (by omega), if_pos (by omega)]
  refine congrArg₂ List.cons (ofNat_eq ?_) (congrArg₂ List.cons (ofNat_eq ?_)
    (congrArg₂ List.cons (ofNat_eq ?_) rfl)) <;> omega

theorem encode_quadruple
    (leads : 0xF0 ≤ lead.toNat ∧ lead.toNat ≤ 0xF4)
    (next : 0x80 ≤ second.toNat ∧ second.toNat ≤ 0xBF)
    (notShorter : lead.toNat = 0xF0 → 0x90 ≤ second.toNat)
    (notBeyond : lead.toNat = 0xF4 → second.toNat ≤ 0x8F)
    (afterNext : 0x80 ≤ third.toNat ∧ third.toNat ≤ 0xBF)
    (last : 0x80 ≤ fourth.toNat ∧ fourth.toNat ≤ 0xBF) :
    String.utf8EncodeChar (Char.ofNat
        (((lead.toNat % 8 * 64 + second.toNat % 64) * 64 + third.toNat % 64) * 64 +
          fourth.toNat % 64)) =
      [lead, second, third, fourth] := by
  have value : (Char.ofNat
      (((lead.toNat % 8 * 64 + second.toNat % 64) * 64 + third.toNat % 64) * 64 +
        fourth.toNat % 64)).val.toNat =
      ((lead.toNat % 8 * 64 + second.toNat % 64) * 64 + third.toNat % 64) * 64 +
        fourth.toNat % 64 := val_ofNat (.inr (by omega))
  unfold String.utf8EncodeChar
  rw [value, if_neg (by omega), if_neg (by omega), if_neg (by omega)]
  refine congrArg₂ List.cons (ofNat_eq ?_) (congrArg₂ List.cons (ofNat_eq ?_)
    (congrArg₂ List.cons (ofNat_eq ?_) (congrArg₂ List.cons (ofNat_eq ?_) rfl))) <;> omega

end Numbers

/-- The bytes of a character that the machine is in. -/
def Progress.taken : Progress → Bytes
  | .idle => []
  | .inside _ _ _ _ taken => taken

/-- The bytes behind a piece. -/
def Piece.bytes (piece : Piece) : Bytes := piece.kept.flatMap Glyph.encode

@[simp] theorem Piece.bytes_valid (character : Char) :
    (Piece.valid character).bytes = String.utf8EncodeChar character := by
  simp [bytes, kept]

@[simp] theorem Piece.bytes_invalid (bytes : Bytes) : (Piece.invalid bytes).bytes = bytes := by
  simp [Piece.bytes, kept, List.flatMap_map]

/-- Whatever bytes within bounds follow, they end a character that is written with the bytes
taken and those that follow; `more` are missing besides the next one. -/
def Completes : (more : Nat) → (low high : UInt8) → (code : Nat) → (taken : Bytes) → Prop
  | 0, low, high, code, taken => ∀ byte, low ≤ byte → byte ≤ high →
      String.utf8EncodeChar (Char.ofNat (code * 64 + byte.toNat % 64)) = taken ++ [byte]
  | more + 1, low, high, code, taken => ∀ byte, low ≤ byte → byte ≤ high →
      Completes more 0x80 0xBF (code * 64 + byte.toNat % 64) (taken ++ [byte])

/-- Inside a character, the machine only takes bytes that end one. -/
def Progress.Sound : Progress → Prop
  | .idle => True
  | .inside missing low high code taken => Completes (missing - 1) low high code taken

theorem toNat_within {low high byte : UInt8} (above : low ≤ byte) (below : byte ≤ high) :
    low.toNat ≤ byte.toNat ∧ byte.toNat ≤ high.toNat :=
  ⟨UInt8.le_iff_toNat_le.mp above, UInt8.le_iff_toNat_le.mp below⟩

/-- The first byte of two is completed by any continuation. -/
theorem completes_pair {lead : UInt8} (leads : 0xC2 ≤ lead.toNat ∧ lead.toNat < 0xE0) :
    Completes 0 0x80 0xBF (lead.toNat % 32) [lead] :=
  fun _ above below => encode_pair leads (toNat_within above below)

/-- The first byte of three is completed by continuations that make it neither shorter nor half
of a pair. -/
theorem completes_triple {lead low high : UInt8} {code : Nat}
    (coded : code = lead.toNat % 16)
    (leads : 0xE0 ≤ lead.toNat ∧ lead.toNat < 0xF0)
    (bounds : 0x80 ≤ low.toNat ∧ high.toNat ≤ 0xBF)
    (notShorter : lead.toNat = 0xE0 → 0xA0 ≤ low.toNat)
    (notHalf : lead.toNat = 0xED → high.toNat ≤ 0x9F) :
    Completes 1 low high code [lead] := by
  subst coded
  intro second above below third aboveThird belowThird
  have next := toNat_within above below
  exact encode_triple leads (by omega) (by omega) (by omega) (toNat_within aboveThird belowThird)

/-- The first byte of four is completed by continuations that make it neither shorter nor too
large. -/
theorem completes_quadruple {lead low high : UInt8} {code : Nat}
    (coded : code = lead.toNat % 8)
    (leads : 0xF0 ≤ lead.toNat ∧ lead.toNat ≤ 0xF4)
    (bounds : 0x80 ≤ low.toNat ∧ high.toNat ≤ 0xBF)
    (notShorter : lead.toNat = 0xF0 → 0x90 ≤ low.toNat)
    (notBeyond : lead.toNat = 0xF4 → high.toNat ≤ 0x8F) :
    Completes 2 low high code [lead] := by
  subst coded
  intro second above below third aboveThird belowThird fourth aboveFourth belowFourth
  have next := toNat_within above below
  exact encode_quadruple leads (by omega) (by omega) (by omega)
    (toNat_within aboveThird belowThird) (toNat_within aboveFourth belowFourth)

/-- The machine has kept certain bytes: as pieces, or as what it has taken. -/
def Keeps (bytes : Bytes) (reached : List Piece × Progress) : Prop :=
  reached.1.flatMap Piece.bytes ++ reached.2.taken = bytes ∧ reached.2.Sound

namespace Keeps

variable {bytes : Bytes} {reached other : List Piece × Progress}

theorem ite {condition : Prop} [Decidable condition] (whenTrue : condition → Keeps bytes reached)
    (whenFalse : ¬ condition → Keeps bytes other) :
    Keeps bytes (if condition then reached else other) := by
  split
  · next holds => exact whenTrue holds
  · next fails => exact whenFalse fails

/-- A byte that cannot begin a character is a piece. -/
theorem stray (byte : UInt8) : Keeps [byte] ([.invalid [byte]], .idle) :=
  ⟨by simp [Progress.taken], trivial⟩

/-- A byte that begins a character is taken. -/
theorem lead {byte low high : UInt8} {missing code : Nat}
    (completes : Completes (missing - 1) low high code [byte]) :
    Keeps [byte] ([], .inside missing low high code [byte]) := ⟨rfl, completes⟩

end Keeps

/-- A first byte is kept. -/
theorem start_keeps (byte : UInt8) : Keeps [byte] (start byte) := by
  have bound (limit : UInt8) (outside : ¬ byte < limit) : limit.toNat ≤ byte.toNat :=
    UInt8.le_iff_toNat_le.mp (UInt8.not_lt.mp outside)
  have differs (other : UInt8) (different : ¬ byte = other) : byte.toNat ≠ other.toNat :=
    fun same => different (UInt8.toNat_inj.mp same)
  refine .ite (fun ascii => ?single) fun _ => .ite (fun _ => .stray byte) fun stray =>
    .ite (fun pair => ?pair) fun pair => .ite (fun shortest => ?shortest) fun shortest =>
    .ite (fun halves => ?halves) fun halves => .ite (fun triple => ?triple) fun triple =>
    .ite (fun shorter => ?shorter) fun shorter => .ite (fun quadruple => ?quadruple) fun _ =>
    .ite (fun longest => ?longest) fun _ => .stray byte
  case single => exact ⟨by simp [Progress.taken, encode_single ascii], trivial⟩
  case pair => exact .lead (completes_pair ⟨bound _ stray, UInt8.lt_iff_toNat_lt.mp pair⟩)
  case shortest =>
    subst shortest
    exact .lead (completes_triple (by decide) (by decide) (by decide) (by decide) (by decide))
  case halves =>
    subst halves
    exact .lead (completes_triple (by decide) (by decide) (by decide) (by decide) (by decide))
  case triple =>
    exact .lead (completes_triple rfl ⟨bound _ pair, UInt8.lt_iff_toNat_lt.mp triple⟩ (by decide)
      (fun same => absurd same (differs _ shortest)) fun same => absurd same (differs _ halves))
  case shorter =>
    subst shorter
    exact .lead (completes_quadruple (by decide) (by decide) (by decide) (by decide) (by decide))
  case quadruple =>
    have below := UInt8.lt_iff_toNat_lt.mp quadruple
    exact .lead (completes_quadruple rfl ⟨bound _ triple, Nat.le_of_lt below⟩ (by decide)
      (fun same => absurd same (differs _ shorter)) fun same => absurd same (Nat.ne_of_lt below))
  case longest =>
    subst longest
    exact .lead (completes_quadruple (by decide) (by decide) (by decide) (by decide) (by decide))

/-- A byte is kept: it continues the character, or ends it and is kept afresh. -/
theorem step_keeps {progress : Progress} (sound : progress.Sound) (byte : UInt8) :
    Keeps (progress.taken ++ [byte]) (step progress byte) := by
  cases progress with
  | idle => exact start_keeps byte
  | inside missing low high code taken =>
      unfold step
      dsimp only
      refine .ite (fun within => .ite (fun last => ?_) fun last => ?_) fun _ => ?_
      · have only : missing - 1 = 0 := by omega
        change Completes (missing - 1) low high code taken at sound
        rw [only] at sound
        exact ⟨by simpa [Progress.taken] using sound byte within.1 within.2, trivial⟩
      · obtain ⟨more, rfl⟩ : ∃ more, missing = more + 2 := ⟨missing - 2, by omega⟩
        exact ⟨rfl, sound byte within.1 within.2⟩
      · obtain ⟨kept, soundNext⟩ := start_keeps byte
        refine ⟨?_, soundNext⟩
        rw [List.flatMap_cons, Piece.bytes_invalid, List.append_assoc, kept]
        rfl

/-- Nothing is lost in reading: the pieces hold the bytes taken and those that follow. -/
theorem pieces_kept {progress : Progress} (sound : progress.Sound) (bytes : Bytes) :
    (pieces progress bytes).flatMap Piece.bytes = progress.taken ++ bytes := by
  induction bytes generalizing progress with
  | nil => cases progress <;> simp [finish, Progress.taken]
  | cons byte rest inductionHypothesis =>
      obtain ⟨kept, soundNext⟩ := step_keeps sound byte
      rw [pieces_cons, List.flatMap_append, inductionHypothesis soundNext, ← List.append_assoc,
        kept, List.append_assoc, List.singleton_append]

/-- Text that was read with all bytes kept is written as these bytes. -/
theorem encode_decodeKeeping (bytes : Bytes) : (decodeKeeping bytes).encode = bytes := by
  have idle : Progress.idle.Sound := trivial
  have kept : (pieces .idle bytes).flatMap Piece.bytes = bytes := pieces_kept idle bytes
  unfold decodeKeeping Text.encode
  rw [List.flatMap_assoc]
  exact kept

/-- Different bytes are read as different texts. -/
theorem decodeKeeping_injective : Function.Injective decodeKeeping :=
  Function.LeftInverse.injective encode_decodeKeeping

end Utf8
end Custody
