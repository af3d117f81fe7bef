-- The laws of JSON text: what is written is read back. They are stated for values without numbers,
-- times, sets and bytes, whose maps have texts as keys, no key twice; other values are either
-- written as their texts or read as another value.
import DesktopPolicy.Json.Reader
import DesktopPolicy.Json.Writer
import Mathlib

namespace DesktopPolicy

/-! ## Keys that are texts -/

theorem Value.sameKey_text (a b : String) : (text a).sameKey (text b) = (a == b) := by
  simp [sameKey, sameScalar, whole?]

theorem put_of_new {entries : List (Value × Value)} {key : Value}
    (h : ∀ entry ∈ entries, entry.1.sameKey key = false) (v : Value) :
    put entries key v = entries ++ [(key, v)] := by
  induction entries with
  | nil => rfl
  | cons entry rest ih =>
    obtain ⟨k, old⟩ := entry
    have hkey : k.sameKey key = false := h (k, old) List.mem_cons_self
    rw [put, hkey, if_neg Bool.false_ne_true, ih fun other ho => h other (List.mem_cons_of_mem _ ho)]
    rfl

/-- Entries with texts as keys. -/
def Value.textKeyed (named : List (String × Value)) : List (Value × Value) :=
  named.map fun entry => (.text entry.1, entry.2)

/-! ## The pure model -/

/-- A value that JSON has a form for, without numbers. -/
inductive Value.IsPlain : Value → Prop
  | null : IsPlain .null
  | bool (b : Bool) : IsPlain (.bool b)
  | text (s : String) : IsPlain (.text s)
  | list {items : List Value} : (∀ item ∈ items, IsPlain item) → IsPlain (.list items)
  | map {named : List (String × Value)} : (named.map Prod.fst).Nodup →
      (∀ entry ∈ named, IsPlain entry.2) →
      IsPlain (.map (textKeyed named))

namespace Json

/-! ## Strings -/

theorem fourHex_hexDigits {n : Nat} (h : n < 32) (e : Char) (rest : List Char) :
    fourHex (Text.hexDigits 4 n ++ e :: rest) = some (n, e :: rest) := by
  have hread : ∀ n < 32, (Text.hexDigits 4 n).foldlM
      (fun n digit => (hexValue? digit).map (n * 16 + ·)) 0 = some n := by decide
  have hdigits := hread n h
  simp only [Text.hexDigits, List.nil_append, List.cons_append] at hdigits ⊢
  rw [fourHex, hdigits]
  rfl

/-- A character is no half of a pair. -/
theorem isHalf_toNat (c : Char) : Text.isHalf c.toNat = false := by
  have hvalid : c.toNat < 0xD800 ∨ 0xDFFF < c.toNat ∧ c.toNat < 0x110000 := c.valid
  simp only [Text.isHalf, Bool.and_eq_false_iff, decide_eq_false_iff_not]
  omega

theorem ofPoints_toNat (cs : List Char) :
    ofPoints (cs.map Char.toNat) = .text (String.ofList cs) := by
  have hwhole : (cs.map Char.toNat).any Text.isHalf = false := by
    simp [isHalf_toNat]
  rw [ofPoints, hwhole, List.map_map]
  simp [Function.comp_def, Char.ofNat_toNat]

/-- One written character is read back in one turn. -/
theorem stringRest_writtenChar (start : List Char) (turns : Nat) (done : List Nat) (c e : Char)
    (rest : List Char) :
    stringRest start (turns + 1) done (writtenChar c ++ e :: rest) =
      stringRest start turns (c.toNat :: done) (e :: rest) := by
  unfold writtenChar
  by_cases hmarked : c = '"' ∨ c = '\\'
  · have hplain : plainEscape? c = some c := by
      rcases hmarked with rfl | rfl <;> decide
    rcases hmarked with rfl | rfl <;> simp [stringRest, hplain]
  · by_cases hcontrol : c.toNat < 32
    · have hhalf : isHighHalf c.toNat = false := by
        simp only [isHighHalf, Bool.and_eq_false_iff, decide_eq_false_iff_not]
        omega
      have hescape : numericEscape (Text.hexDigits 4 c.toNat ++ e :: rest) =
          .ok (c.toNat, e :: rest) := by
        simp [numericEscape, fourHex_hexDigits hcontrol, hhalf]
      rw [not_or] at hmarked
      simp [hmarked, hcontrol, stringRest, hescape]
    · rw [not_or] at hmarked
      simp [hmarked, hcontrol, stringRest]

theorem stringRest_written (start : List Char) (cs done rest : List Char) (turns : Nat)
    (h : cs.length < turns) :
    stringRest start turns (done.map Char.toNat) (cs.flatMap writtenChar ++ '"' :: rest) =
      .ok (.text (String.ofList (done.reverse ++ cs)), rest) := by
  induction cs generalizing done turns with
  | nil =>
    cases turns with
    | zero => cases h
    | succ turns => simp [stringRest, ← List.map_reverse, ofPoints_toNat]
  | cons c cs ih =>
    cases turns with
    | zero => cases h
    | succ turns =>
      -- behind the character at least the closing quote follows
      obtain ⟨e, behind, hbehind⟩ : ∃ e behind, cs.flatMap writtenChar ++ '"' :: rest = e :: behind :=
        List.exists_cons_of_ne_nil (by simp)
      rw [List.flatMap_cons, List.append_assoc, hbehind, stringRest_writtenChar, ← hbehind,
        ← List.map_cons, ih _ _ (by simpa using h)]
      simp

theorem length_le_flatMap_writtenChar (cs : List Char) :
    cs.length ≤ (cs.flatMap writtenChar).length := by
  induction cs with
  | nil => simp
  | cons c cs ih =>
    have hone : 1 ≤ (writtenChar c).length := by
      unfold writtenChar
      split
      · simp
      · split <;> simp
    simp only [List.flatMap_cons, List.length_append, List.length_cons]
    omega

theorem toList_writtenString (s : String) :
    (writtenString s).toList = '"' :: (s.toList.flatMap writtenChar ++ ['"']) := by
  simp [writtenString]

/-- A written string is read back. -/
theorem string_written (s : String) (rest : List Char) :
    string ((writtenString s).toList ++ rest) = .ok (.text s, rest) := by
  rw [toList_writtenString, List.cons_append, List.append_assoc, string]
  have hturns := length_le_flatMap_writtenChar s.toList
  rw [List.singleton_append, ← List.map_nil, stringRest_written _ _ _ _ _ (by
    rw [List.length_append, List.length_cons]
    omega)]
  simp

/-! ## Items and entries -/

/-- What stands in front of a value, and of nothing that ends a collection. -/
def Opens (cs : List Char) : Prop :=
  ∃ c rest, cs = c :: rest ∧ isSpace c = false ∧ c ≠ ']' ∧ c ≠ '\x7d'

theorem Opens.append {cs : List Char} (h : Opens cs) (more : List Char) : Opens (cs ++ more) := by
  obtain ⟨c, rest, rfl, hc⟩ := h
  exact ⟨c, rest ++ more, rfl, hc⟩

theorem Opens.skipSpace {cs : List Char} (h : Opens cs) : skipSpace cs = cs := by
  obtain ⟨c, rest, rfl, hspace, -⟩ := h
  simp [Json.skipSpace, hspace]

theorem opens_writtenString (s : String) : Opens (writtenString s).toList :=
  ⟨'"', _, toList_writtenString s, by decide, by decide, by decide⟩

theorem Opens.value_list {cs : List Char} (h : Opens cs) (turns : Nat) :
    value (turns + 1) ('[' :: cs) = items turns [] cs := by
  have hskip := h.skipSpace
  obtain ⟨c, rest, rfl, -, hclosing, -⟩ := h
  simp [value, hskip, hclosing]

theorem Opens.value_map {cs : List Char} (h : Opens cs) (turns : Nat) :
    value (turns + 1) ('\x7b' :: cs) = entries turns [] cs := by
  have hskip := h.skipSpace
  obtain ⟨c, rest, rfl, -, -, hclosing⟩ := h
  simp [value, hskip, hclosing]

theorem follow_closing {closing : Char} (h : isSpace closing = false) (rest : List Char) :
    follow closing (closing :: rest) = .ok (.done rest) := by
  simp [follow, skipSpace, h]

theorem follow_comma {closing : Char} (h : closing ≠ ',') {cs : List Char} (hcs : Opens cs) :
    follow closing (',' :: ' ' :: cs) = .ok (.more cs) := by
  have hskip : skipSpace (' ' :: cs) = cs := hcs.skipSpace
  have hcomma : skipSpace (',' :: ' ' :: cs) = ',' :: ' ' :: cs := rfl
  simp [follow, hcomma, hskip, Ne.symm h]

theorem toList_intercalate_cons (part next : String) (later : List String) :
    (", ".intercalate (part :: next :: later)).toList =
      part.toList ++ ',' :: ' ' :: (", ".intercalate (next :: later)).toList := by
  simp [String.intercalate_cons_cons]

/-- The value is read back from its text, whatever follows it, in as many turns as the text has
characters. -/
structure ReadsBack (v : Value) : Prop where
  opens : Opens (write v).toList
  value : ∀ turns rest, (write v).toList.length ≤ turns →
    value turns ((write v).toList ++ rest) = .ok (v, rest)

theorem opens_items {item : Value} (h : ReadsBack item) (later : List Value) :
    Opens (", ".intercalate (writeItems (item :: later))).toList := by
  cases later with
  | nil => simpa [writeItems, String.intercalate_singleton] using h.opens
  | cons next later =>
    rw [writeItems, writeItems, toList_intercalate_cons]
    exact h.opens.append _

/-- The last written item is read back in one turn. -/
theorem items_last {item : Value} (h : ReadsBack item) {turns : Nat} (done : List Value)
    {cs behind : List Char} (hturns : (write item).toList.length ≤ turns)
    (hfollow : follow ']' cs = .ok (.done behind)) :
    items (turns + 1) done ((write item).toList ++ cs) =
      .ok (.list (item :: done).reverse, behind) := by
  rw [items, h.value turns cs hturns]
  simp [bind, Except.bind, hfollow]

/-- Any other written item is read back in one turn. -/
theorem items_more {item : Value} (h : ReadsBack item) {turns : Nat} (done : List Value)
    {cs behind : List Char} (hturns : (write item).toList.length ≤ turns)
    (hfollow : follow ']' cs = .ok (.more behind)) :
    items (turns + 1) done ((write item).toList ++ cs) = items turns (item :: done) behind := by
  rw [items, h.value turns cs hturns]
  simp [bind, Except.bind, hfollow]

/-- The written items of a list are read back behind those already read. -/
theorem items_written {item : Value} {later : List Value}
    (h : ∀ other ∈ item :: later, ReadsBack other) {turns : Nat} (done : List Value)
    (rest : List Char)
    (hturns : (", ".intercalate (writeItems (item :: later))).toList.length ≤ turns) :
    items (turns + 1) done ((", ".intercalate (writeItems (item :: later))).toList ++ ']' :: rest) =
      .ok (.list (done.reverse ++ item :: later), rest) := by
  have hitem := h item List.mem_cons_self
  induction later generalizing item turns done with
  | nil =>
    simp only [writeItems, String.intercalate_singleton] at hturns ⊢
    rw [items_last hitem done hturns (follow_closing (by decide) rest), List.reverse_cons]
  | cons next later ih =>
    have hlater : ∀ other ∈ next :: later, ReadsBack other :=
      fun other ho => h other (List.mem_cons_of_mem _ ho)
    have hnext := hlater next List.mem_cons_self
    have hopens := (opens_items hnext later).append (']' :: rest)
    rw [writeItems, writeItems, toList_intercalate_cons, ← writeItems] at hturns ⊢
    rw [List.length_append, List.length_cons, List.length_cons] at hturns
    obtain ⟨left, rfl⟩ : ∃ left, turns = left + 1 := ⟨turns - 1, by omega⟩
    rw [List.append_assoc, List.cons_append, List.cons_append,
      items_more hitem done (by omega) (follow_comma (by decide) hopens),
      ih hlater (item :: done) (by omega) hnext, List.reverse_cons, List.append_assoc]
    rfl

theorem entryName_written (name : String) {cs : List Char} (h : Opens cs) :
    entryName ((writtenString name).toList ++ ':' :: ' ' :: cs) = .ok (.text name, cs) := by
  have hskip : skipSpace (' ' :: cs) = cs := h.skipSpace
  have hcolon : skipSpace (':' :: ' ' :: cs) = ':' :: ' ' :: cs := rfl
  simp [entryName, string_written, hcolon, hskip, bind, Except.bind]

theorem writeEntries_textKeyed (entry : String × Value) (later : List (String × Value)) :
    writeEntries (Value.textKeyed (entry :: later)) =
      (writtenString entry.1 ++ ": " ++ write entry.2) ::
        writeEntries (Value.textKeyed later) := rfl

theorem opens_entries (entry : String × Value) (later : List (String × Value)) :
    Opens (", ".intercalate (writeEntries (Value.textKeyed (entry :: later)))).toList := by
  have hone : Opens (writtenString entry.1 ++ ": " ++ write entry.2).toList := by
    rw [String.toList_append, String.toList_append, List.append_assoc]
    exact (opens_writtenString entry.1).append _
  cases later with
  | nil =>
    rw [writeEntries_textKeyed]
    simpa only [Value.textKeyed, List.map_nil, writeEntries, String.intercalate_singleton] using hone
  | cons next later =>
    rw [writeEntries_textKeyed, writeEntries_textKeyed, toList_intercalate_cons]
    exact hone.append _

theorem put_textKeyed {before : List (String × Value)} {name : String}
    (h : name ∉ before.map Prod.fst) (v : Value) :
    put (Value.textKeyed before) (.text name) v = Value.textKeyed (before ++ [(name, v)]) := by
  rw [Value.textKeyed, Value.textKeyed, List.map_append]
  apply put_of_new
  intro entry hentry
  obtain ⟨old, hold, rfl⟩ := List.mem_map.mp hentry
  rw [Value.sameKey_text, beq_eq_false_iff_ne]
  rintro rfl
  exact h (List.mem_map_of_mem hold)

theorem entries_text (entry : String × Value) (cs : List Char) :
    (writtenString entry.1 ++ ": " ++ write entry.2).toList ++ cs =
      (writtenString entry.1).toList ++ ':' :: ' ' :: ((write entry.2).toList ++ cs) := by
  simp

section

variable {before : List (String × Value)} {entry : String × Value} {turns : Nat}
  {cs behind : List Char}

/-- The last written entry is read back in one turn. -/
theorem entries_last (hnew : entry.1 ∉ before.map Prod.fst) (h : ReadsBack entry.2)
    (hturns : (write entry.2).toList.length ≤ turns)
    (hfollow : follow '\x7d' cs = .ok (.done behind)) :
    entries (turns + 1) (Value.textKeyed before)
      ((writtenString entry.1 ++ ": " ++ write entry.2).toList ++ cs) =
        .ok (.map (Value.textKeyed (before ++ [entry])), behind) := by
  rw [entries_text, entries, entryName_written _ (h.opens.append cs)]
  simp [bind, Except.bind, h.value turns cs hturns, put_textKeyed hnew, hfollow]

/-- Any other written entry is read back in one turn. -/
theorem entries_more (hnew : entry.1 ∉ before.map Prod.fst) (h : ReadsBack entry.2)
    (hturns : (write entry.2).toList.length ≤ turns)
    (hfollow : follow '\x7d' cs = .ok (.more behind)) :
    entries (turns + 1) (Value.textKeyed before)
      ((writtenString entry.1 ++ ": " ++ write entry.2).toList ++ cs) =
        entries turns (Value.textKeyed (before ++ [entry])) behind := by
  rw [entries_text, entries, entryName_written _ (h.opens.append cs)]
  simp [bind, Except.bind, h.value turns cs hturns, put_textKeyed hnew, hfollow]

end

theorem length_entry (entry : String × Value) :
    (write entry.2).toList.length ≤
      (writtenString entry.1 ++ ": " ++ write entry.2).toList.length := by
  simp only [String.toList_append, List.length_append]
  omega

theorem name_is_new {before later : List (String × Value)} {entry : String × Value}
    (h : ((before ++ entry :: later).map Prod.fst).Nodup) : entry.1 ∉ before.map Prod.fst := by
  intro hmem
  rw [List.map_append, List.map_cons, List.nodup_append] at h
  exact h.2.2 _ hmem _ List.mem_cons_self rfl

/-- The written entries of a map are read back behind those already read. -/
theorem entries_written (before : List (String × Value)) {later : List (String × Value)}
    {entry : String × Value}
    (hnames : ((before ++ entry :: later).map Prod.fst).Nodup)
    (h : ∀ other ∈ entry :: later, ReadsBack other.2) {turns : Nat} (rest : List Char)
    (hturns : (", ".intercalate (writeEntries (Value.textKeyed (entry :: later)))).toList.length ≤
      turns) :
    entries (turns + 1) (Value.textKeyed before)
      ((", ".intercalate (writeEntries (Value.textKeyed (entry :: later)))).toList ++
        '\x7d' :: rest) =
      .ok (.map (Value.textKeyed (before ++ entry :: later)), rest) := by
  have hentry := h entry List.mem_cons_self
  have hlength := length_entry entry
  induction later generalizing entry before turns with
  | nil =>
    have hnil : writeEntries (Value.textKeyed []) = [] := rfl
    rw [writeEntries_textKeyed, hnil, String.intercalate_singleton] at hturns ⊢
    exact entries_last (name_is_new hnames) hentry (by omega) (follow_closing (by decide) rest)
  | cons next later ih =>
    have hlater : ∀ other ∈ next :: later, ReadsBack other.2 :=
      fun other ho => h other (List.mem_cons_of_mem _ ho)
    have hopens := (opens_entries next later).append ('\x7d' :: rest)
    have hsplit : before ++ entry :: next :: later = (before ++ [entry]) ++ next :: later := by
      simp
    rw [writeEntries_textKeyed, writeEntries_textKeyed, toList_intercalate_cons,
      ← writeEntries_textKeyed] at hturns ⊢
    rw [List.length_append, List.length_cons, List.length_cons] at hturns
    obtain ⟨left, rfl⟩ : ∃ left, turns = left + 1 := ⟨turns - 1, by omega⟩
    rw [List.append_assoc, List.cons_append, List.cons_append,
      entries_more (name_is_new hnames) hentry (by omega) (follow_comma (by decide) hopens)]
    rw [hsplit] at hnames ⊢
    exact ih _ hnames hlater (by omega) (hlater next List.mem_cons_self) (length_entry next)

/-! ## Values -/

theorem ReadsBack.list {listed : List Value} (h : ∀ item ∈ listed, ReadsBack item) :
    ReadsBack (.list listed) := by
  have htext : (write (.list listed)).toList =
      '[' :: ((", ".intercalate (writeItems listed)).toList ++ [']']) := by
    simp [write]
  constructor
  · exact ⟨'[', _, htext, by decide, by decide, by decide⟩
  · intro turns rest hturns
    rw [htext, List.length_cons, List.length_append, List.length_singleton] at hturns
    obtain ⟨left, rfl⟩ : ∃ left, turns = left + 2 := ⟨turns - 2, by omega⟩
    rw [htext, List.cons_append, List.append_assoc, List.singleton_append]
    cases listed with
    | nil => rfl
    | cons item later =>
      have hopens := (opens_items (h item List.mem_cons_self) later).append (']' :: rest)
      rw [hopens.value_list, items_written h [] rest (by omega)]
      rfl

theorem ReadsBack.map {named : List (String × Value)} (hnames : (named.map Prod.fst).Nodup)
    (h : ∀ entry ∈ named, ReadsBack entry.2) : ReadsBack (.map (Value.textKeyed named)) := by
  have htext : (write (.map (Value.textKeyed named))).toList =
      '\x7b' :: ((", ".intercalate (writeEntries (Value.textKeyed named))).toList ++ ['\x7d']) := by
    simp [write]
  constructor
  · exact ⟨'\x7b', _, htext, by decide, by decide, by decide⟩
  · intro turns rest hturns
    rw [htext, List.length_cons, List.length_append, List.length_singleton] at hturns
    obtain ⟨left, rfl⟩ : ∃ left, turns = left + 2 := ⟨turns - 2, by omega⟩
    rw [htext, List.cons_append, List.append_assoc, List.singleton_append]
    cases named with
    | nil => rfl
    | cons entry later =>
      have hopens := (opens_entries entry later).append ('\x7d' :: rest)
      rw [hopens.value_map]
      exact entries_written [] hnames h rest (by omega)

theorem ReadsBack.null : ReadsBack .null := by
  refine ⟨⟨'n', _, rfl, by decide, by decide, by decide⟩, ?_⟩
  intro turns rest hturns
  obtain ⟨left, rfl⟩ : ∃ left, turns = left + 4 := Nat.exists_eq_add_of_le' hturns
  simp [write, Json.value, scalar, words, behindWord]

theorem ReadsBack.bool (b : Bool) : ReadsBack (.bool b) := by
  cases b with
  | false =>
    refine ⟨⟨'f', _, rfl, by decide, by decide, by decide⟩, ?_⟩
    intro turns rest hturns
    obtain ⟨left, rfl⟩ : ∃ left, turns = left + 5 := Nat.exists_eq_add_of_le' hturns
    simp [write, Json.value, scalar, words, behindWord]
  | true =>
    refine ⟨⟨'t', _, rfl, by decide, by decide, by decide⟩, ?_⟩
    intro turns rest hturns
    obtain ⟨left, rfl⟩ : ∃ left, turns = left + 4 := Nat.exists_eq_add_of_le' hturns
    simp [write, Json.value, scalar, words, behindWord]

theorem ReadsBack.text (s : String) : ReadsBack (.text s) := by
  refine ⟨opens_writtenString s, ?_⟩
  intro turns rest hturns
  have hstring := string_written s rest
  rw [write, toList_writtenString] at *
  obtain ⟨left, rfl⟩ : ∃ left, turns = left + 1 := Nat.exists_eq_succ_of_ne_zero (by
    rintro rfl
    simp at hturns)
  rw [List.cons_append] at hstring ⊢
  rw [Json.value, hstring]

theorem ReadsBack.of_isPlain {v : Value} (h : v.IsPlain) : ReadsBack v := by
  induction h with
  | null => exact .null
  | bool b => exact .bool b
  | text s => exact .text s
  | list _ ih => exact .list ih
  | map hnames _ ih => exact .map hnames ih

/-- A written value is read back. -/
theorem read_write {v : Value} (h : v.IsPlain) : read (write v) = .ok v := by
  have hback := ReadsBack.of_isPlain h
  have hvalue := hback.value (2 * (write v).toList.length + 2) [] (by omega)
  rw [List.append_nil] at hvalue
  rw [read, hback.opens.skipSpace, hvalue]
  rfl

end Json

end DesktopPolicy
