import SensorGateway.Proofs.Binding.Spelling
import SensorGateway.Proofs.Text.Hex
import SensorGateway.Proofs.Value.RoundTrip
import SensorGateway.Proofs.Value.Typed

namespace SensorGateway

/-- An optional plus sign, and digits whose value is the byte. -/
def Text.SpellsPlus (field : List Char) (n : UInt8) : Prop :=
  ∃ digits, (field = digits ∨ field = '+' :: digits) ∧ digits ≠ [] ∧ (∀ d ∈ digits, d.isDigit = true) ∧
    digitsValue digits = n.toNat

theorem Text.readByte?_eq_some_iff_digits (field : List Char) (n : UInt8) :
    readByte? field = some n ↔ field ≠ [] ∧ (∀ d ∈ field, d.isDigit = true) ∧ digitsValue field = n.toNat := by
  rw [readByte?_eq_some_iff, spells_iff, isDigits_iff, and_assoc]

theorem Text.readPlusByte?_eq_some_iff (field : List Char) (n : UInt8) :
    readPlusByte? field = some n ↔ SpellsPlus field n := by
  unfold readPlusByte?
  split
  · rename_i rest
    rw [readByte?_eq_some_iff_digits]
    constructor
    · exact fun spelled => ⟨rest, .inr rfl, spelled⟩
    · rintro ⟨digits, rfl | plus, spelled⟩
      · exact absurd (spelled.2.1 '+' List.mem_cons_self) (by decide)
      · rwa [(List.cons.inj plus).2]
  · rename_i unsigned
    rw [readByte?_eq_some_iff_digits]
    constructor
    · exact fun spelled => ⟨field, .inl rfl, spelled⟩
    · rintro ⟨digits, rfl | plus, spelled⟩
      · exact spelled
      · exact absurd plus (unsigned digits)

theorem Text.spellsPlus_toDigits (n : UInt8) : SpellsPlus (Nat.toDigits 10 n.toNat) n :=
  ⟨_, .inl rfl, (readByte?_eq_some_iff_digits _ n).mp (readByte?_toDigits n)⟩

namespace Rgb

/-- Six hex digits, or eight. -/
def HexForm (cs : List Char) : Prop :=
  (∀ c ∈ cs, Text.IsHexDigit c) ∧ (cs.length = 6 ∨ cs.length = 8)

theorem byteHex_of_hexByte? {high low : Char} {b : UInt8} (read : hexByte? high low = some b) :
    byteHex b = [high.toLower, low.toLower] := by
  obtain ⟨h, first, read⟩ := Option.bind_eq_some_iff.mp read
  obtain ⟨l, second, read⟩ := Option.bind_eq_some_iff.mp read
  obtain ⟨small, upper⟩ := Text.digitChar_of_hexDigit? first
  obtain ⟨small', lower⟩ := Text.digitChar_of_hexDigit? second
  have value : b.toNat = 16 * h + l := by
    rw [← Option.some.inj read, UInt8.toNat_ofNat', Nat.mod_eq_of_lt (by omega)]
  have parts : b.toNat / 16 = h ∧ b.toNat % 16 = l := by omega
  rw [byteHex, parts.1, parts.2, upper, lower]

theorem exists_hexByte? {high low : Char} (first : Text.IsHexDigit high) (second : Text.IsHexDigit low) :
    ∃ b, hexByte? high low = some b := by
  obtain ⟨h, first⟩ := Option.isSome_iff_exists.mp ((Text.hexDigit?_isSome_iff high).mpr first)
  obtain ⟨l, second⟩ := Option.isSome_iff_exists.mp ((Text.hexDigit?_isSome_iff low).mpr second)
  exact ⟨_, by rw [hexByte?, first, second]; rfl⟩

theorem hexChars_injective {c d : Rgb} (same : c.hexChars = d.hexChars) : c = d := by
  have read := ofHex?_hex c
  rw [hex, same, ← hex, ofHex?_hex] at read
  exact (Option.some.inj read).symm

/-- Six hex digits are read as the color that they are printed for, but for their case. -/
theorem ofSix?_of_hexDigits {cs : List Char} (digits : ∀ c ∈ cs, Text.IsHexDigit c) (six : cs.length = 6) :
    ∃ c, ofSix? cs = some c ∧ c.hexChars = cs.map Char.toLower := by
  match cs, six with
  | [r, r', g, g', b, b'], _ =>
    simp only [List.forall_mem_cons] at digits
    obtain ⟨r₁, r₂, g₁, g₂, b₁, b₂, _⟩ := digits
    obtain ⟨red, readRed⟩ := exists_hexByte? r₁ r₂
    obtain ⟨green, readGreen⟩ := exists_hexByte? g₁ g₂
    obtain ⟨blue, readBlue⟩ := exists_hexByte? b₁ b₂
    refine ⟨⟨red, green, blue⟩, by rw [ofSix?, readRed, readGreen, readBlue]; rfl, ?_⟩
    rw [hexChars, byteHex_of_hexByte? readRed, byteHex_of_hexByte? readGreen, byteHex_of_hexByte? readBlue]
    rfl

theorem all_hexDigit?_iff (cs : List Char) :
    cs.all (fun c => (Text.hexDigit? c).isSome) = true ↔ ∀ c ∈ cs, Text.IsHexDigit c := by
  simp only [List.all_eq_true, Text.hexDigit?_isSome_iff]

theorem ofHexChars?_of_hexForm {cs : List Char} (form : HexForm cs) : ofHexChars? cs = ofSix? (cs.take 6) := by
  rw [ofHexChars?, if_pos ⟨(all_hexDigit?_iff cs).mpr form.1, form.2⟩]

theorem ofHexChars?_of_not_hexForm {cs : List Char} (other : ¬ HexForm cs) : ofHexChars? cs = none := by
  rw [ofHexChars?, if_neg]
  rintro ⟨digits, size⟩
  exact other ⟨(all_hexDigit?_iff cs).mp digits, size⟩

theorem exists_ofHexChars? {cs : List Char} (form : HexForm cs) :
    ∃ c, ofHexChars? cs = some c ∧ c.hexChars = (cs.take 6).map Char.toLower := by
  have digits : ∀ d ∈ cs.take 6, Text.IsHexDigit d := fun d member => form.1 d (List.mem_of_mem_take member)
  have six : (cs.take 6).length = 6 := by
    have size := form.2
    rw [List.length_take]
    omega
  rw [ofHexChars?_of_hexForm form]
  exact ofSix?_of_hexDigits digits six

theorem ofHexChars?_eq_some_iff (cs : List Char) (c : Rgb) :
    ofHexChars? cs = some c ↔ HexForm cs ∧ c.hexChars = (cs.take 6).map Char.toLower := by
  by_cases form : HexForm cs
  · obtain ⟨found, read, printed⟩ := exists_ofHexChars? form
    rw [read, ← printed]
    constructor
    · intro same
      rw [Option.some.inj same]
      exact ⟨form, rfl⟩
    · rintro ⟨_, same⟩
      rw [hexChars_injective same]
  · rw [ofHexChars?_of_not_hexForm form]
    exact ⟨nofun, fun ⟨again, _⟩ => absurd again form⟩

/-- The color of six hex digits, or of eight, found by the bytes of the text: they are counted, each is tested, and a
channel is the text from one byte on up to another. There is nothing where that would cut through a character. -/
def ofHexBytes? (s : String) : Option (Option Rgb) :=
  if (Text.utf8 s).all (Text.IsHexByte ·) ∧ ((Text.utf8 s).length = 6 ∨ (Text.utf8 s).length = 8) then do
    let red ← Text.slice? 0 2 s.toList
    let green ← Text.slice? 2 4 s.toList
    let blue ← Text.slice? 4 6 s.toList
    some (ofSix? (red ++ green ++ blue))
  else some none

theorem take_append_slice {m n : Nat} (order : m ≤ n) (cs : List Char) :
    cs.take m ++ (cs.take n).drop m = cs.take n := by
  have cut := List.take_append_drop m (cs.take n)
  rwa [List.take_take, Nat.min_eq_left order] at cut

/-- No character is cut through, and the bytes give what the characters give. -/
theorem ofHexBytes?_eq (s : String) : ofHexBytes? s = some (ofHex? s) := by
  have bytes : (Text.utf8 s).all (Text.IsHexByte ·) = true ↔ ∀ c ∈ s.toList, Text.IsHexDigit c := by
    simp only [List.all_eq_true, decide_eq_true_eq, Text.forall_isHexByte_iff]
  have size (digits : ∀ c ∈ s.toList, Text.IsHexDigit c) : (Text.utf8 s).length = s.toList.length := by
    rw [Text.length_utf8, Text.byteLength_of_ascii fun c member => (digits c member).utf8Size]
  rw [ofHex?, ofHexBytes?]
  by_cases form : HexForm s.toList
  · have single : ∀ c ∈ s.toList, c.utf8Size = 1 := fun c member => (form.1 c member).utf8Size
    have six : 6 ≤ s.toList.length := by
      have length := form.2
      omega
    rw [if_pos ⟨bytes.mpr form.1, by rw [size form.1]; exact form.2⟩, Text.slice?_of_ascii single (by omega) (by omega),
      Text.slice?_of_ascii single (by omega) (by omega), Text.slice?_of_ascii single (by omega) six,
      ofHexChars?_of_hexForm form]
    simp only [Option.bind_eq_bind, Option.bind_some, List.drop_zero, take_append_slice (by decide : 2 ≤ 4),
      take_append_slice (by decide : 4 ≤ 6)]
  · rw [ofHexChars?_of_not_hexForm form, if_neg]
    rintro ⟨digits, length⟩
    rw [size (bytes.mp digits)] at length
    exact form ⟨bytes.mp digits, length⟩

/-- Characters spell a color for a user: with three decimal numbers, each an optional plus sign and digits between blanks,
or with six hex digits behind at most one number sign. -/
inductive Denotes (cs : List Char) (c : Rgb) : Prop
  | decimal {red green blue : List Char} : cs = red ++ ',' :: (green ++ ',' :: blue) →
    ',' ∉ red ∧ ',' ∉ green ∧ ',' ∉ blue → Text.SpellsPlus (Text.trimEnd (Text.trimStart red)) c.red →
    Text.SpellsPlus (Text.trimEnd (Text.trimStart green)) c.green →
    Text.SpellsPlus (Text.trimEnd (Text.trimStart blue)) c.blue → Denotes cs c
  | hex {digits : List Char} : cs = digits ∨ cs = '#' :: digits → (∀ d ∈ digits, Text.IsHexDigit d) →
    digits.length = 6 → c.hexChars = digits.map Char.toLower → Denotes cs c

theorem dropNumberSign_of_hexDigits {digits cs : List Char} (digit : ∀ d ∈ digits, Text.IsHexDigit d)
    (behind : cs = digits ∨ cs = '#' :: digits) : dropNumberSign cs = digits := by
  rcases behind with rfl | rfl
  · unfold dropNumberSign
    split
    · exact absurd (digit '#' List.mem_cons_self) (by decide)
    · rfl
  · rfl

theorem eq_or_eq_numberSign_cons (cs : List Char) : cs = dropNumberSign cs ∨ cs = '#' :: dropNumberSign cs := by
  unfold dropNumberSign
  split
  · exact .inr rfl
  · exact .inl rfl

/-- The fields between commas, each without the blanks around it. -/
def commandFields (cs : List Char) : List (List Char) :=
  (cs.splitOn ',').map fun field => Text.trimEnd (Text.trimStart field)

theorem commandFields_eq_iff (cs r g b : List Char) :
    commandFields cs = [r, g, b] ↔
      ∃ red green blue, (cs = red ++ ',' :: (green ++ ',' :: blue) ∧ ',' ∉ red ∧ ',' ∉ green ∧ ',' ∉ blue) ∧
        Text.trimEnd (Text.trimStart red) = r ∧ Text.trimEnd (Text.trimStart green) = g ∧
          Text.trimEnd (Text.trimStart blue) = b := by
  simp only [commandFields, List.map_eq_cons_iff, List.map_eq_nil_iff, ← Binding.splitOn_eq_triple_iff]
  constructor
  · rintro ⟨red, _, cut, rfl, green, _, rfl, rfl, blue, _, rfl, rfl, rfl⟩
    exact ⟨red, green, blue, cut, rfl, rfl, rfl⟩
  · rintro ⟨red, green, blue, cut, rfl, rfl, rfl⟩
    exact ⟨red, _, cut, rfl, green, _, rfl, rfl, blue, _, rfl, rfl, rfl⟩

/-- Hex digits and number signs are no commas. -/
theorem comma_notMem_hex {digits cs : List Char} (digit : ∀ d ∈ digits, Text.IsHexDigit d)
    (behind : cs = digits ∨ cs = '#' :: digits) : ',' ∉ cs := by
  have free : ',' ∉ digits := fun member => absurd (digit ',' member) (by decide)
  rcases behind with rfl | rfl
  · exact free
  · exact List.not_mem_cons_of_ne_of_not_mem (by decide) free

theorem ofCommandChars?_eq_some_iff (cs : List Char) (c : Rgb) : ofCommandChars? cs = some c ↔ Denotes cs c := by
  unfold ofCommandChars?
  rw [← commandFields]
  split
  · rename_i r g b cut
    obtain ⟨red, green, blue, ⟨whole, free⟩, trimmed⟩ := (commandFields_eq_iff cs r g b).mp cut
    constructor
    · intro read
      obtain ⟨redByte, readRed, read⟩ := Option.bind_eq_some_iff.mp read
      obtain ⟨greenByte, readGreen, read⟩ := Option.bind_eq_some_iff.mp read
      obtain ⟨blueByte, readBlue, read⟩ := Option.bind_eq_some_iff.mp read
      obtain rfl := Option.some.inj read
      rw [Text.readPlusByte?_eq_some_iff] at readRed readGreen readBlue
      obtain ⟨rfl, rfl, rfl⟩ := trimmed
      exact .decimal whole free readRed readGreen readBlue
    · intro denotes
      cases denotes with
      | @decimal red green blue whole free spelledRed spelledGreen spelledBlue =>
        have again := (commandFields_eq_iff cs _ _ _).mpr ⟨red, green, blue, ⟨whole, free⟩, rfl, rfl, rfl⟩
        obtain ⟨rfl, rfl, rfl⟩ : r = _ ∧ g = _ ∧ b = _ := by simpa using cut.symm.trans again
        rw [← Text.readPlusByte?_eq_some_iff] at spelledRed spelledGreen spelledBlue
        rw [spelledRed, spelledGreen, spelledBlue]
        rfl
      | hex behind digits =>
        refine absurd ?_ (comma_notMem_hex digits behind)
        rw [whole]
        simp
  · rename_i uncut
    constructor
    · intro read
      split at read
      · rename_i six
        obtain ⟨form, printed⟩ := (ofHexChars?_eq_some_iff _ c).mp read
        rw [List.take_of_length_le (Nat.le_of_eq six)] at printed
        exact .hex (eq_or_eq_numberSign_cons cs) form.1 six printed
      · cases read
    · intro denotes
      cases denotes with
      | decimal whole free =>
        exact absurd ((commandFields_eq_iff cs _ _ _).mpr ⟨_, _, _, ⟨whole, free⟩, rfl, rfl, rfl⟩) (uncut _ _ _)
      | hex behind digits six printed =>
        rw [dropNumberSign_of_hexDigits digits behind, if_pos six, ofHexChars?_eq_some_iff,
          List.take_of_length_le (Nat.le_of_eq six)]
        exact ⟨⟨digits, .inl six⟩, printed⟩

theorem hex_eq_iff (c : Rgb) (cs : List Char) :
    c.hex = Text.lower (String.ofList cs) ↔ c.hexChars = cs.map Char.toLower := by
  rw [hex, Text.lower, String.toList_ofList, ← String.toList_inj, String.toList_ofList, String.toList_ofList]

/-- Lower-case hex digits, which the digits of a color are. -/
theorem hexDigit_of_mem_hexChars {c : Rgb} {d : Char} (member : d ∈ c.hexChars) :
    Text.IsHexDigit d ∧ d.toLower = d := by
  have table : ∀ n < 16, Text.IsHexDigit n.digitChar ∧ n.digitChar.toLower = n.digitChar := by decide
  obtain ⟨n, small, rfl⟩ := mem_hexChars member
  exact table n small

/-- Six hex digits in front of which a number sign may stand denote the color that they are printed for. -/
theorem denotes_hex {c : Rgb} {cs : List Char} (behind : cs = c.hexChars ∨ cs = '#' :: c.hexChars) :
    Denotes cs c := by
  have small : c.hexChars.map Char.toLower = c.hexChars :=
    (List.map_congr_left fun _ member => (hexDigit_of_mem_hexChars member).2).trans (List.map_id' _)
  exact .hex behind (fun _ member => (hexDigit_of_mem_hexChars member).1) rfl small.symm

/-- The three channels as decimal numbers with commas between them. -/
def decimalText (c : Rgb) : String :=
  toString c.red.toNat ++ "," ++ toString c.green.toNat ++ "," ++ toString c.blue.toNat

theorem toList_decimalText (c : Rgb) :
    c.decimalText.toList =
      Nat.toDigits 10 c.red.toNat ++ ',' :: (Nat.toDigits 10 c.green.toNat ++ ',' :: Nat.toDigits 10 c.blue.toNat) := by
  simp only [decimalText, String.toList_append, Text.toList_nat, List.append_assoc]
  rfl

theorem denotes_decimalText (c : Rgb) : Denotes c.decimalText.toList c := by
  have free (n : Nat) : ',' ∉ Nat.toDigits 10 n := fun member =>
    absurd (Nat.isDigit_of_mem_toDigits (by decide) (by decide) member) (by decide)
  have field (b : UInt8) : Text.SpellsPlus (Text.trimEnd (Text.trimStart (Nat.toDigits 10 b.toNat))) b := by
    rw [(Text.solid_toDigits _).trimStart, (Text.solid_toDigits _).trimEnd]
    exact Text.spellsPlus_toDigits b
  exact .decimal c.toList_decimalText ⟨free _, free _, free _⟩ (field _) (field _) (field _)

theorem solid_decimalText (c : Rgb) : Text.Solid c.decimalText.toList := by
  have comma : Text.Solid [','] := by decide
  rw [toList_decimalText]
  exact (Text.solid_toDigits _).append (comma.append ((Text.solid_toDigits _).append
    (comma.append (Text.solid_toDigits _))))

theorem solid_display (c : Rgb) : Text.Solid (Value.color c).display.toList := by
  have sign : Text.Solid "#".toList := by decide
  rw [Value.display, String.toList_append]
  exact sign.append c.solid_hex

theorem ofCommand_color_eq_ok_iff (text : String) (v : Value) :
    Value.ofCommand .color text = .ok v ↔ ∃ c, v = .color c ∧ Denotes (Text.trim text).toList c := by
  simp only [Value.ofCommand, Value.orUnreadable_eq_ok_iff, ofCommand?, Option.map_eq_some_iff,
    ofCommandChars?_eq_some_iff]
  constructor
  · rintro ⟨c, denotes, rfl⟩
    exact ⟨c, rfl, denotes⟩
  · rintro ⟨c, rfl, denotes⟩
    exact ⟨c, denotes, rfl⟩

/-- A text without blanks that denotes a color is a command for it. -/
theorem ofCommand_of_solid {text : String} {c : Rgb} (solid : Text.Solid text.toList) (denotes : Denotes text.toList c) :
    Value.ofCommand .color text = .ok (.color c) := by
  rw [ofCommand_color_eq_ok_iff, solid.trim]
  exact ⟨c, rfl, denotes⟩

/-- The hex texts of colors are six or eight hex digits, of which the first six are those of the color, but for their
case; nothing depends on whether they are taken by characters or by bytes. What a user types is a color if, between
blanks, it denotes one, and the texts that colors are shown, sent and counted out with do. -/
theorem color_spelling (text : String) :
    ofHexBytes? text = some (ofHex? text) ∧
      ((∃ c, ofHex? text = some c) ↔ HexForm text.toList) ∧
      (∀ c, ofHex? text = some c ↔
        HexForm text.toList ∧ c.hex = Text.lower (String.ofList (text.toList.take 6))) ∧
      (∀ other c d, ofHex? text = some c → ofHex? other = some d →
        (c = d ↔ Text.lower (String.ofList (text.toList.take 6)) = Text.lower (String.ofList (other.toList.take 6)))) ∧
      (∀ v, Value.ofCommand .color text = .ok v ↔ ∃ c, v = .color c ∧ Denotes (Text.trim text).toList c) ∧
      ∀ c : Rgb, ofHex? c.hex = some c ∧
        ∀ spelled ∈ [(Value.color c).display, c.hex, c.decimalText],
          Value.ofCommand .color spelled = .ok (.color c) := by
  have reads (s : String) (c : Rgb) : ofHex? s = some c ↔
      HexForm s.toList ∧ c.hex = Text.lower (String.ofList (s.toList.take 6)) := by
    rw [ofHex?, ofHexChars?_eq_some_iff, hex_eq_iff]
  refine ⟨ofHexBytes?_eq text, ⟨?_, ?_⟩, reads text, ?_, ofCommand_color_eq_ok_iff text, fun c => ⟨ofHex?_hex c, ?_⟩⟩
  · rintro ⟨c, read⟩
    exact ((reads text c).mp read).1
  · intro form
    obtain ⟨c, read, _⟩ := exists_ofHexChars? form
    exact ⟨c, read⟩
  · intro other c d read read'
    rw [← ((reads text c).mp read).2, ← ((reads other d).mp read').2]
    constructor
    · rintro rfl
      rfl
    · intro same
      exact hexChars_injective (String.ofList_injective same)
  · simp only [List.forall_mem_cons]
    refine ⟨ofCommand_of_solid c.solid_display (denotes_hex (.inr ?_)), ?_, ?_, List.forall_mem_nil _⟩
    · simp only [Value.display, String.toList_append, hex, String.toList_ofList]
      rfl
    · exact ofCommand_of_solid c.solid_hex (denotes_hex (.inl (by rw [hex, String.toList_ofList])))
    · exact ofCommand_of_solid c.solid_decimalText c.denotes_decimalText

/-- Orange in capitals and with white of its own is orange, and so it is when counted out with a sign, blanks and
zeros. -/
theorem color_spelling_orange :
    ofHex? "FF8000aa" = some ⟨255, 128, 0⟩ ∧ ofHex? "ff8000" = some ⟨255, 128, 0⟩ ∧
      Text.lower (String.ofList ("FF8000aa".toList.take 6)) = Text.lower (String.ofList ("ff8000".toList.take 6)) ∧
      Value.ofCommand .color " +0255, 128 ,0" = .ok (.color ⟨255, 128, 0⟩) := by
  have first : ofHex? "FF8000aa" = some ⟨255, 128, 0⟩ := by decide
  have second : ofHex? "ff8000" = some ⟨255, 128, 0⟩ := by decide
  obtain ⟨_, _, _, same, _⟩ := color_spelling "FF8000aa"
  obtain ⟨_, _, _, _, typed, _⟩ := color_spelling " +0255, 128 ,0"
  have denotes : Denotes (Text.trim " +0255, 128 ,0").toList ⟨255, 128, 0⟩ := by
    have red := (Text.readPlusByte?_eq_some_iff ['+', '0', '2', '5', '5'] 255).mp (by decide)
    have green := (Text.readPlusByte?_eq_some_iff ['1', '2', '8'] 128).mp (by decide)
    have blue := (Text.readPlusByte?_eq_some_iff ['0'] 0).mp (by decide)
    exact @Denotes.decimal _ ⟨255, 128, 0⟩ "+0255".toList " 128 ".toList ['0'] (by decide) (by decide) red green blue
  exact ⟨first, second, (same "ff8000" _ _ first second).mp rfl, (typed _).mpr ⟨_, rfl, denotes⟩⟩

end Rgb

end SensorGateway
