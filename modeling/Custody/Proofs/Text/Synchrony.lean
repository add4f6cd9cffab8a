import Custody.Proofs.Text.Utf8

/-!
# Invalid bytes do not reach their neighbours

No byte that begins a character continues another one.  So the reader starts afresh wherever such a
byte follows, and the bytes of a text are read as the text whatever stands before and after them.
What is left over is cut into maximal invalid subparts: beginnings of characters that the next byte
does not continue, and bytes that begin no character.
-/

namespace Custody
namespace Utf8

/-- Bytes that only stand inside a character. -/
def IsContinuation (byte : UInt8) : Prop := 0x80 ≤ byte.toNat ∧ byte.toNat ≤ 0xBF

/-- The first of some bytes, if there is one, continues no character. -/
def BeginsAfresh (bytes : Bytes) : Prop := ∀ byte ∈ bytes.head?, ¬ IsContinuation byte

section Characters

variable {lead second third fourth : UInt8}

theorem start_single (leads : lead.toNat < 0x80) :
    start lead = ([.valid (Char.ofNat lead.toNat)], .idle) :=
  if_pos (UInt8.lt_iff_toNat_lt.mpr leads)

theorem start_pair (leads : 0xC2 ≤ lead.toNat ∧ lead.toNat < 0xE0) :
    start lead = ([], .inside 1 0x80 0xBF (lead.toNat % 32) [lead]) := by
  unfold start
  simp only [UInt8.lt_iff_toNat_lt, UInt8.reduceToNat]
  rw [if_neg (by omega), if_neg (by omega), if_pos (by omega)]

/-- The second of three bytes makes the character neither shorter nor half of a pair. -/
theorem start_triple (leads : 0xE0 ≤ lead.toNat ∧ lead.toNat < 0xF0) :
    start lead = ([], .inside 2 (if lead.toNat = 0xE0 then 0xA0 else 0x80)
      (if lead.toNat = 0xED then 0x9F else 0xBF) (lead.toNat % 16) [lead]) := by
  unfold start
  simp only [UInt8.lt_iff_toNat_lt, ← UInt8.toNat_inj, UInt8.reduceToNat]
  rw [if_neg (by omega), if_neg (by omega), if_neg (by omega)]
  by_cases shortest : lead.toNat = 0xE0
  · simp [shortest]
  · by_cases halves : lead.toNat = 0xED
    · simp [halves]
    · rw [if_neg shortest, if_neg halves, if_pos (by omega), if_neg shortest, if_neg halves]

/-- The second of four bytes makes the character neither shorter nor too large. -/
theorem start_quadruple (leads : 0xF0 ≤ lead.toNat ∧ lead.toNat ≤ 0xF4) :
    start lead = ([], .inside 3 (if lead.toNat = 0xF0 then 0x90 else 0x80)
      (if lead.toNat = 0xF4 then 0x8F else 0xBF) (lead.toNat % 8) [lead]) := by
  unfold start
  simp only [UInt8.lt_iff_toNat_lt, ← UInt8.toNat_inj, UInt8.reduceToNat]
  rw [if_neg (by omega), if_neg (by omega), if_neg (by omega), if_neg (by omega),
    if_neg (by omega), if_neg (by omega)]
  by_cases shorter : lead.toNat = 0xF0
  · simp [shorter]
  · by_cases longest : lead.toNat = 0xF4
    · simp [longest]
    · rw [if_neg shorter, if_pos (by omega), if_neg shorter, if_neg longest]

end Characters

section Inside

variable {low high byte : UInt8} {missing code : Nat} {taken rest : Bytes}

theorem step_last (within : low.toNat ≤ byte.toNat ∧ byte.toNat ≤ high.toNat) :
    step (.inside 1 low high code taken) byte =
      ([.valid (Char.ofNat (code * 64 + byte.toNat % 64))], .idle) := by
  unfold step
  dsimp only
  rw [if_pos (And.imp UInt8.le_iff_toNat_le.mpr UInt8.le_iff_toNat_le.mpr within),
    if_pos (Nat.le_refl 1)]

theorem step_more (within : low.toNat ≤ byte.toNat ∧ byte.toNat ≤ high.toNat) :
    step (.inside (missing + 2) low high code taken) byte =
      ([], .inside (missing + 1) 0x80 0xBF (code * 64 + byte.toNat % 64) (taken ++ [byte])) := by
  unfold step
  dsimp only
  rw [if_pos (And.imp UInt8.le_iff_toNat_le.mpr UInt8.le_iff_toNat_le.mpr within),
    if_neg (by omega)]
  rfl

theorem step_outside (outside : ¬ (low.toNat ≤ byte.toNat ∧ byte.toNat ≤ high.toNat)) :
    step (.inside missing low high code taken) byte =
      (.invalid taken :: (start byte).1, (start byte).2) := by
  unfold step
  dsimp only
  rw [if_neg fun within =>
    outside (within.imp UInt8.le_iff_toNat_le.mp UInt8.le_iff_toNat_le.mp)]

theorem pieces_idle_cons (byte : UInt8) (rest : Bytes) :
    pieces .idle (byte :: rest) = (start byte).1 ++ pieces (start byte).2 rest := rfl

/-- A byte that begins a character leads into it. -/
theorem pieces_start {progress : Progress} (started : start byte = ([], progress)) :
    pieces .idle (byte :: rest) = pieces progress rest := by
  rw [pieces_idle_cons, started]
  rfl

theorem pieces_last (within : low.toNat ≤ byte.toNat ∧ byte.toNat ≤ high.toNat) :
    pieces (.inside 1 low high code taken) (byte :: rest) =
      .valid (Char.ofNat (code * 64 + byte.toNat % 64)) :: pieces .idle rest := by
  rw [pieces_cons, step_last within]
  rfl

theorem pieces_more (within : low.toNat ≤ byte.toNat ∧ byte.toNat ≤ high.toNat) :
    pieces (.inside (missing + 2) low high code taken) (byte :: rest) =
      pieces (.inside (missing + 1) 0x80 0xBF (code * 64 + byte.toNat % 64) (taken ++ [byte]))
        rest := by
  rw [pieces_cons, step_more within]
  rfl

/-- A byte that does not continue the character ends it and is read afresh. -/
theorem pieces_outside (outside : ¬ (low.toNat ≤ byte.toNat ∧ byte.toNat ≤ high.toNat)) :
    pieces (.inside missing low high code taken) (byte :: rest) =
      .invalid taken :: pieces .idle (byte :: rest) := by
  rw [pieces_cons, step_outside outside]
  rfl

end Inside

section Reading

variable {lead second third fourth : UInt8} (rest : Bytes)

theorem pieces_single (leads : lead.toNat < 0x80) :
    pieces .idle (lead :: rest) = .valid (Char.ofNat lead.toNat) :: pieces .idle rest := by
  rw [pieces_idle_cons, start_single leads]
  rfl

theorem pieces_pair
    (leads : 0xC2 ≤ lead.toNat ∧ lead.toNat < 0xE0)
    (next : IsContinuation second) :
    pieces .idle (lead :: second :: rest) =
      .valid (Char.ofNat (lead.toNat % 32 * 64 + second.toNat % 64)) :: pieces .idle rest :=
  (pieces_start (start_pair leads)).trans (pieces_last next)

theorem pieces_triple
    (leads : 0xE0 ≤ lead.toNat ∧ lead.toNat < 0xF0)
    (next : IsContinuation second)
    (notShorter : lead.toNat = 0xE0 → 0xA0 ≤ second.toNat)
    (notHalf : lead.toNat = 0xED → second.toNat ≤ 0x9F)
    (last : IsContinuation third) :
    pieces .idle (lead :: second :: third :: rest) =
      .valid (Char.ofNat ((lead.toNat % 16 * 64 + second.toNat % 64) * 64 + third.toNat % 64)) ::
        pieces .idle rest := by
  have within : (if lead.toNat = 0xE0 then 0xA0 else 0x80 : UInt8).toNat ≤ second.toNat ∧
      second.toNat ≤ (if lead.toNat = 0xED then 0x9F else 0xBF : UInt8).toNat := by
    unfold IsContinuation at next
    constructor <;> split <;> simp only [UInt8.reduceToNat] <;> omega
  rw [pieces_start (start_triple leads), pieces_more within]
  exact pieces_last last

theorem pieces_quadruple
    (leads : 0xF0 ≤ lead.toNat ∧ lead.toNat ≤ 0xF4)
    (next : IsContinuation second)
    (notShorter : lead.toNat = 0xF0 → 0x90 ≤ second.toNat)
    (notBeyond : lead.toNat = 0xF4 → second.toNat ≤ 0x8F)
    (afterNext : IsContinuation third)
    (last : IsContinuation fourth) :
    pieces .idle (lead :: second :: third :: fourth :: rest) =
      .valid (Char.ofNat (((lead.toNat % 8 * 64 + second.toNat % 64) * 64 + third.toNat % 64) * 64 +
        fourth.toNat % 64)) :: pieces .idle rest := by
  have within : (if lead.toNat = 0xF0 then 0x90 else 0x80 : UInt8).toNat ≤ second.toNat ∧
      second.toNat ≤ (if lead.toNat = 0xF4 then 0x8F else 0xBF : UInt8).toNat := by
    unfold IsContinuation at next
    constructor <;> split <;> simp only [UInt8.reduceToNat] <;> omega
  rw [pieces_start (start_quadruple leads), pieces_more within]
  refine (pieces_more ?_).trans (pieces_last last)
  exact afterNext

end Reading

/-- A code point of a character. -/
theorem valid_val (character : Char) :
    character.val.toNat < 0xD800 ∨ 0xDFFF < character.val.toNat ∧ character.val.toNat < 0x110000 :=
  character.valid

/-- The bytes of a character are read as the character, whatever follows. -/
theorem pieces_encodeChar (character : Char) (rest : Bytes) :
    pieces .idle (String.utf8EncodeChar character ++ rest) =
      .valid character :: pieces .idle rest := by
  have valid := valid_val character
  have same (code : Nat) (equal : code = character.val.toNat) : Char.ofNat code = character := by
    rw [equal]
    exact Char.ofNat_toNat character
  unfold String.utf8EncodeChar
  dsimp only
  generalize character.val.toNat = code at valid same
  split
  · refine (pieces_single rest ?_).trans ?_
    all_goals simp only [UInt8.toNat_ofNat']
    · omega
    · rw [same _ (by omega)]
  split
  · refine (pieces_pair rest ?_ ?_).trans ?_
    all_goals simp only [IsContinuation, UInt8.toNat_ofNat']
    · omega
    · omega
    · rw [same _ (by omega)]
  split
  · refine (pieces_triple rest ?_ ?_ ?_ ?_ ?_).trans ?_
    all_goals simp only [IsContinuation, UInt8.toNat_ofNat']
    · omega
    · omega
    · omega
    · omega
    · omega
    · rw [same _ (by omega)]
  · refine (pieces_quadruple rest ?_ ?_ ?_ ?_ ?_ ?_).trans ?_
    all_goals simp only [IsContinuation, UInt8.toNat_ofNat']
    · omega
    · omega
    · omega
    · omega
    · omega
    · omega
    · rw [same _ (by omega)]

/-- The first byte of a character continues no other one. -/
theorem beginsAfresh_encodeChar (character : Char) (rest : Bytes) :
    BeginsAfresh (String.utf8EncodeChar character ++ rest) := by
  have valid := valid_val character
  have leads (lead : Nat) (bytes : Bytes) (apart : lead % 256 < 0x80 ∨ 0xC0 ≤ lead % 256) :
      BeginsAfresh (UInt8.ofNat lead :: bytes) := by
    rintro _ ⟨⟩ ⟨above, below⟩
    rw [UInt8.toNat_ofNat'] at above below
    omega
  unfold String.utf8EncodeChar
  dsimp only
  generalize character.val.toNat = code at valid
  split
  · exact leads _ _ (by omega)
  split
  · exact leads _ _ (by omega)
  split
  · exact leads _ _ (by omega)
  · exact leads _ _ (by omega)

theorem beginsAfresh_encode (characters : List Char) : BeginsAfresh (encode characters) := by
  cases characters with
  | nil => exact nofun
  | cons character characters => exact beginsAfresh_encodeChar character _

/-- The bytes of a text are read as the text, whatever follows. -/
theorem pieces_encode_append (characters : List Char) (rest : Bytes) :
    pieces .idle (encode characters ++ rest) =
      characters.map .valid ++ pieces .idle rest := by
  induction characters with
  | nil => rfl
  | cons character characters inductionHypothesis =>
      rw [encode_cons, List.append_assoc, pieces_encodeChar, inductionHypothesis]
      rfl

/-- Inside a character, the machine has taken some bytes and expects a continuation. -/
def Progress.Expects : Progress → Prop
  | .idle => True
  | .inside missing low high _ taken =>
      0 < missing ∧ low.toNat ≤ high.toNat ∧ 0x80 ≤ low.toNat ∧ high.toNat ≤ 0xBF ∧ taken ≠ []

/-- What a first byte leads to: it is a character, begins none, or leads into one. -/
inductive Starts (byte : UInt8) : List Piece × Progress → Prop
  /-- It is a character. -/
  | single (character : Char) : Starts byte ([.valid character], .idle)
  /-- It begins no character. -/
  | stray : Starts byte ([.invalid [byte]], .idle)
  /-- It leads into a character. -/
  | lead {missing code : Nat} {low high : UInt8}
      (expects : 0 < missing ∧ low.toNat ≤ high.toNat ∧ 0x80 ≤ low.toNat ∧ high.toNat ≤ 0xBF) :
      Starts byte ([], .inside missing low high code [byte])

theorem Starts.ite {byte : UInt8} {condition : Prop} [Decidable condition]
    {reached other : List Piece × Progress} (whenTrue : Starts byte reached)
    (whenFalse : Starts byte other) : Starts byte (if condition then reached else other) := by
  split
  · exact whenTrue
  · exact whenFalse

theorem start_starts (byte : UInt8) : Starts byte (start byte) :=
  .ite (.single _) <| .ite .stray <| .ite (.lead (by decide)) <| .ite (.lead (by decide)) <|
    .ite (.lead (by decide)) <| .ite (.lead (by decide)) <| .ite (.lead (by decide)) <|
    .ite (.lead (by decide)) <| .ite (.lead (by decide)) .stray

theorem start_expects (byte : UInt8) : (start byte).2.Expects := by
  have starts := start_starts byte
  generalize start byte = reached at starts ⊢
  cases starts with
  | single character => exact True.intro
  | stray => exact True.intro
  | lead expects => exact ⟨expects.1, expects.2.1, expects.2.2.1, expects.2.2.2, by simp⟩

theorem step_expects {progress : Progress} (expects : progress.Expects) (byte : UInt8) :
    (step progress byte).2.Expects := by
  cases progress with
  | idle => exact start_expects byte
  | inside missing low high code taken =>
      unfold step
      dsimp only
      split
      · split
        · exact True.intro
        · exact ⟨by omega, by decide, by decide, by decide, by simp⟩
      · exact start_expects byte

/-- Where the bytes begin afresh, so does the reader. -/
theorem pieces_append {progress : Progress} (expects : progress.Expects) (bytes : Bytes)
    {rest : Bytes} (afresh : BeginsAfresh rest) :
    pieces progress (bytes ++ rest) = pieces progress bytes ++ pieces .idle rest := by
  induction bytes generalizing progress with
  | cons byte bytes inductionHypothesis =>
      rw [List.cons_append, pieces_cons, pieces_cons,
        inductionHypothesis (step_expects expects byte), List.append_assoc]
  | nil =>
      cases progress with
      | idle => rfl
      | inside missing low high code taken =>
          cases rest with
          | nil => rfl
          | cons byte rest =>
              obtain ⟨_, _, above, below, _⟩ := expects
              have strange : ¬ (low.toNat ≤ byte.toNat ∧ byte.toNat ≤ high.toNat) := fun within =>
                afresh byte rfl ⟨Nat.le_trans above within.1, Nat.le_trans within.2 below⟩
              exact pieces_outside strange

/-- Bytes between two texts are read as if they stood alone, and so are the texts. -/
theorem pieces_between (before after : List Char) (bytes : Bytes) :
    pieces .idle (encode before ++ bytes ++ encode after) =
      before.map .valid ++ pieces .idle bytes ++ after.map .valid := by
  have idle : Progress.idle.Expects := True.intro
  have last := pieces_encode_append after []
  rw [List.append_nil, pieces_nil, finish, List.append_nil] at last
  rw [List.append_assoc, pieces_encode_append, pieces_append idle bytes
    (beginsAfresh_encode after), last, List.append_assoc]

/-- Some bytes are the beginning of a character, which goes on after them. -/
def IsBeginning (bytes : Bytes) : Prop :=
  ∃ character more, more ≠ [] ∧ String.utf8EncodeChar character = bytes ++ more

/-- How bytes are cut into characters and maximal invalid subparts. -/
inductive Cuts : Bytes → List Piece → Prop
  /-- There are no bytes. -/
  | nil : Cuts [] []
  /-- The first bytes are a character. -/
  | valid (character : Char) {rest : Bytes} {pieces : List Piece} (cut : Cuts rest pieces) :
      Cuts (String.utf8EncodeChar character ++ rest) (.valid character :: pieces)
  /-- The first byte begins no character. -/
  | stray {byte : UInt8} {rest : Bytes} {pieces : List Piece}
      (begins : ∀ character, byte ∉ (String.utf8EncodeChar character).head?)
      (cut : Cuts rest pieces) : Cuts (byte :: rest) (.invalid [byte] :: pieces)
  /-- The first bytes begin a character that the next byte, if there is one, does not continue. -/
  | truncated {taken rest : Bytes} {pieces : List Piece} (nonempty : taken ≠ [])
      (begins : IsBeginning taken)
      (ends : ∀ byte ∈ rest.head?, ∀ character,
        ¬ taken ++ [byte] <+: String.utf8EncodeChar character)
      (cut : Cuts rest pieces) : Cuts (taken ++ rest) (.invalid taken :: pieces)

/-- What completes a character shows that it was begun. -/
theorem Completes.isBeginning {more code : Nat} {low high : UInt8} {taken : Bytes}
    (completes : Completes more low high code taken) (bounds : low.toNat ≤ high.toNat) :
    IsBeginning taken := by
  induction more generalizing low high code taken with
  | zero =>
      exact ⟨_, [low], by simp,
        completes low (UInt8.le_refl low) (UInt8.le_iff_toNat_le.mpr bounds)⟩
  | succ more inductionHypothesis =>
      obtain ⟨character, rest, _, same⟩ := inductionHypothesis
        (completes low (UInt8.le_refl low) (UInt8.le_iff_toNat_le.mpr bounds)) (by decide)
      exact ⟨character, low :: rest, by simp, by simpa using same⟩

/-- The machine comes to a state by taking the bytes that it has taken. -/
def Progress.Reached (progress : Progress) : Prop :=
  ∀ rest, pieces .idle (progress.taken ++ rest) = pieces progress rest

/-- A character is not read in a state that ends with an invalid subpart. -/
theorem Progress.Reached.not_invalid {progress : Progress} (reached : progress.Reached)
    {bytes taken : Bytes} {others : List Piece}
    (left : pieces progress bytes = .invalid taken :: others) (character : Char) :
    progress.taken ++ bytes ≠ String.utf8EncodeChar character := by
  intro same
  have whole := pieces_encodeChar character []
  rw [List.append_nil, ← same, reached, left] at whole
  cases whole

/-- A first byte and all after it are cut if what follows a state is. -/
theorem cuts_afresh {byte : UInt8} {rest : Bytes}
    (next : ∀ progress : Progress, progress.Sound → progress.Expects → progress.Reached →
      Cuts (progress.taken ++ rest) (pieces progress rest)) :
    Cuts (byte :: rest) (pieces .idle (byte :: rest)) := by
  have starts := start_starts byte
  have keeps := start_keeps byte
  have expects := start_expects byte
  have whole := pieces_idle_cons byte
  have idle : Cuts rest (pieces .idle rest) := next .idle True.intro True.intro fun _ => rfl
  generalize start byte = reached at starts keeps expects whole
  cases starts with
  | single character =>
      have written : String.utf8EncodeChar character = [byte] := by
        simpa [Progress.taken] using keeps.1
      rw [whole, ← List.singleton_append, ← written]
      exact .valid character idle
  | stray =>
      rw [whole]
      refine .stray (fun character begun => ?_) idle
      obtain ⟨more, same⟩ := List.head?_eq_some_iff.mp begun
      have reached : Progress.idle.Reached := fun _ => rfl
      exact reached.not_invalid (whole more) character same.symm
  | lead _ =>
      rw [whole]
      exact next _ keeps.2 expects whole

/-- What the reader produces is a cut, in any state that it comes to. -/
theorem cuts_pieces {progress : Progress} (sound : progress.Sound) (expects : progress.Expects)
    (reached : progress.Reached) (bytes : Bytes) :
    Cuts (progress.taken ++ bytes) (pieces progress bytes) := by
  induction bytes generalizing progress with
  | nil =>
      cases progress with
      | idle => exact .nil
      | inside missing low high code taken =>
          obtain ⟨_, bounds, _, _, nonempty⟩ := expects
          exact .truncated nonempty (sound.isBeginning bounds) nofun .nil
  | cons byte rest inductionHypothesis =>
      have afresh : Cuts (byte :: rest) (pieces .idle (byte :: rest)) :=
        cuts_afresh fun _ => inductionHypothesis
      cases progress with
      | idle => exact afresh
      | inside missing low high code taken =>
          -- The byte completes the character, continues it, or cuts it off and is read afresh.
          have ⟨_, bounds, _, _, nonempty⟩ := expects
          by_cases within : low.toNat ≤ byte.toNat ∧ byte.toNat ≤ high.toNat
          · have soundNext := (step_keeps sound byte).2
            have expectsNext := step_expects expects byte
            obtain rfl | ⟨more, rfl⟩ : missing = 1 ∨ ∃ more, missing = more + 2 := by
              by_cases last : missing = 1
              · exact .inl last
              · exact .inr ⟨missing - 2, by omega⟩
            · have written := sound byte (UInt8.le_iff_toNat_le.mpr within.1)
                (UInt8.le_iff_toNat_le.mpr within.2)
              have idle : Cuts (Progress.idle.taken ++ rest) (pieces .idle rest) :=
                inductionHypothesis True.intro True.intro fun _ => rfl
              rw [pieces_last within, Progress.taken, List.append_cons, ← written]
              exact .valid _ idle
            · rw [step_more within] at soundNext expectsNext
              rw [pieces_more within, Progress.taken, List.append_cons]
              refine inductionHypothesis soundNext expectsNext fun others => ?_
              rw [← pieces_more within, ← reached, Progress.taken, Progress.taken,
                ← List.append_cons]
          · rw [pieces_outside within]
            refine .truncated nonempty (sound.isBeginning bounds) ?_ afresh
            rintro _ ⟨⟩ character ⟨more, same⟩
            exact reached.not_invalid (pieces_outside within) character
              ((List.append_cons taken byte more).trans same)

theorem cuts_pieces_idle (bytes : Bytes) : Cuts bytes (pieces .idle bytes) := by
  have sound : Progress.idle.Sound := True.intro
  have expects : Progress.idle.Expects := True.intro
  have reached : Progress.idle.Reached := fun _ => rfl
  exact cuts_pieces sound expects reached bytes

section Decoding

/-- Bytes between two texts are replaced as if they stood alone, and the texts come back. -/
theorem decodeReplacing_between (before after : List Char) (bytes : Bytes) :
    decodeReplacing (encode before ++ bytes ++ encode after) =
      before ++ decodeReplacing bytes ++ after := by
  have restored (characters : List Char) :
      (characters.map Piece.valid).map Piece.replaced = characters := by
    rw [List.map_map]
    exact List.map_id characters
  unfold decodeReplacing
  rw [pieces_between, List.map_append, List.map_append, restored, restored]

example : decodeReplacing [0x61, 0xE2, 0x82, 0xC3, 0xA9] = ['a', '\uFFFD', 'é'] := by decide

/-- A text comes back from its bytes. -/
theorem decodeReplacing_encode (characters : List Char) :
    decodeReplacing (encode characters) = characters := by
  have between := decodeReplacing_between characters [] []
  rw [encode_nil, List.append_nil, List.append_nil, List.append_nil] at between
  exact between.trans (List.append_nil characters)

theorem decodeReplacing_eq_nil_iff {bytes : Bytes} : decodeReplacing bytes = [] ↔ bytes = [] := by
  unfold decodeReplacing
  rw [List.map_eq_nil_iff]
  constructor
  · intro nothing
    have idle : Progress.idle.Sound := True.intro
    have kept := pieces_kept idle bytes
    rw [nothing] at kept
    exact kept.symm
  · rintro rfl
    rfl

end Decoding

end Utf8

namespace Text

/-- A text without raw bytes consists of its characters. -/
theorem eq_ofList_of_characters? {text : Text} {characters : List Char}
    (plain : text.characters? = some characters) : text = ofList characters := by
  obtain ⟨glyphs⟩ := text
  change glyphs.mapM Glyph.char? = some characters at plain
  refine congrArg Text.mk ?_
  induction glyphs generalizing characters with
  | nil =>
      cases plain
      rfl
  | cons glyph glyphs inductionHypothesis =>
      rw [List.mapM_cons] at plain
      cases glyph with
      | char character =>
          cases others : glyphs.mapM Glyph.char? with
          | none => simp [others] at plain
          | some rest =>
              simp only [Glyph.char?_char, others] at plain
              cases plain
              exact congrArg (Glyph.char character :: ·) (inductionHypothesis others)
      | raw byte => cases plain
      | half code => cases plain

/-- A text that has a strict encoding is read back from it. -/
theorem ofString_decodeReplacing {text : Text} {encoded : Bytes}
    (coded : text.encodeStrict? = some encoded) :
    ofString (String.ofList (Utf8.decodeReplacing encoded)) = text := by
  obtain ⟨characters, plain, rfl⟩ := Option.map_eq_some_iff.mp coded
  change ofString (String.ofList (Utf8.decodeReplacing (Utf8.encode characters))) = text
  rw [Utf8.decodeReplacing_encode, ofString, String.toList_ofList, eq_ofList_of_characters? plain]

/-- Bytes that are read with all of them kept leave no halves of pairs. -/
theorem hasHalf_decodeKeeping (bytes : Bytes) : (Utf8.decodeKeeping bytes).hasHalf = false := by
  refine List.any_eq_false.mpr fun glyph listed => ?_
  obtain ⟨piece, -, kept⟩ := List.mem_flatMap.mp listed
  cases piece with
  | valid character =>
      cases List.mem_singleton.mp kept
      exact Bool.false_ne_true
  | invalid stray =>
      obtain ⟨byte, -, rfl⟩ := List.mem_map.mp kept
      exact Bool.false_ne_true

end Text

end Custody
