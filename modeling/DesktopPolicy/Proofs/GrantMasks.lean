-- The laws of masks. A mask may be any whole number, and its bits are those of its two's complement.
-- However far a negative mask is cut down, it keeps the bits that grants have; so what several masks
-- hold together is told grant by grant, and names and bits stand for each other.
import DesktopPolicy.Proofs.RoleGrammar

namespace DesktopPolicy

theorem Grant.bit_lt_width (grant : Grant) : grant.bit < width := by
  cases grant <;> decide

namespace Grants

/-! ## Numbers cut down -/

/-- A negative number is taken from a power of two that has room for it and for every named bit. -/
theorem exists_mask_negSucc (m : Nat) :
    ∃ size, Grant.width ≤ size ∧ m < 2 ^ size ∧ (ofInt (.negSucc m)).mask = 2 ^ size - (m + 1) := by
  have hwidth : 1 <<< Grant.width = 2 ^ Grant.width := Nat.one_shiftLeft _
  have hlength : 1 <<< bitLength (m + 1) = 2 ^ ((m + 1).log2 + 1) := by
    rw [Nat.one_shiftLeft, bitLength, if_neg (by simp)]
  have hlt : m + 1 < 2 ^ ((m + 1).log2 + 1) := Nat.lt_log2_self
  unfold ofInt
  simp only [hwidth, hlength]
  split
  · exact ⟨_, le_rfl, by omega, rfl⟩
  · rcases le_total ((m + 1).log2 + 1) Grant.width with hle | hle
    · have hpow := Nat.pow_le_pow_right Nat.two_pos hle
      exact ⟨_, le_rfl, by omega, by rw [max_eq_left hpow]⟩
    · have hpow := Nat.pow_le_pow_right Nat.two_pos hle
      exact ⟨_, hle, by omega, by rw [max_eq_right hpow]⟩

/-- A number that is cut down keeps its named bits. -/
theorem testBit_ofInt (n : Int) {i : Nat} (h : i < Grant.width) :
    (ofInt n).mask.testBit i = bitOf n i := by
  cases n with
  | ofNat m => rfl
  | negSucc m =>
    obtain ⟨size, hwidth, hlt, hmask⟩ := exists_mask_negSucc m
    have hi : i < size := h.trans_le hwidth
    rw [hmask, Nat.testBit_two_pow_sub_succ hlt, decide_eq_true hi, Bool.true_and, bitOf]

theorem contains_ofInt (n : Int) (grant : Grant) :
    (ofInt n).contains grant = bitOf n grant.bit :=
  testBit_ofInt n grant.bit_lt_width

/-- The remainder of a number has its named bits and no others. -/
theorem testBit_emod (n : Int) (i : Nat) :
    (n % 256).toNat.testBit i = (decide (i < Grant.width) && bitOf n i) := by
  have hwidth : Grant.width = 8 := rfl
  rw [hwidth]
  cases n with
  | ofNat m =>
    have hmod : (Int.ofNat m % 256).toNat = m % 2 ^ 8 := by
      rw [Int.ofNat_eq_natCast]
      omega
    rw [hmod, Nat.testBit_mod_two_pow, bitOf]
  | negSucc m =>
    have hmod : (Int.negSucc m % 256).toNat = 2 ^ 8 - (m % 2 ^ 8 + 1) := by omega
    have hlt : m % 2 ^ 8 < 2 ^ 8 := Nat.mod_lt _ (by decide)
    rw [hmod, Nat.testBit_two_pow_sub_succ hlt, Nat.testBit_mod_two_pow, bitOf]
    by_cases hi : i < 8 <;> simp [hi]

/-! ## Masks put together -/

theorem bitOf_join (mask : Nat) (n : Int) (i : Nat) :
    bitOf (join mask n) i = (mask.testBit i || bitOf n i) := by
  cases n with
  | ofNat n => exact Nat.testBit_or mask n i
  | negSucc n =>
    simp only [join, bitOf, Nat.testBit_xor, Nat.testBit_and]
    cases mask.testBit i <;> cases n.testBit i <;> rfl

theorem contains_add (grants : Grants) (n : Int) (grant : Grant) :
    (grants.add n).contains grant = (grants.contains grant || bitOf n grant.bit) := by
  rw [add, contains_ofInt, bitOf_join, contains]

/-- Each mask adds its named bits, and takes none away. -/
theorem contains_foldl_add (start : Grants) (masks : List Int) (grant : Grant) :
    (masks.foldl add start).contains grant =
      (start.contains grant || masks.any fun mask => bitOf mask grant.bit) := by
  induction masks generalizing start with
  | nil => simp
  | cons mask rest ih => rw [List.foldl_cons, ih, contains_add, List.any_cons, Bool.or_assoc]

theorem contains_combine (masks : List Int) (grant : Grant) :
    (combine masks).contains grant = true ↔ ∃ mask ∈ masks, bitOf mask grant.bit = true := by
  rw [combine, contains_foldl_add, contains_empty, Bool.false_or, List.any_eq_true]

/-- Nothing is cut from masks that are not negative. -/
theorem mask_foldl_add (start : Grants) (masks : List Nat) :
    ((masks.map Nat.cast).foldl add start).mask = masks.foldl (· ||| ·) start.mask := by
  induction masks generalizing start with
  | nil => rfl
  | cons mask rest ih => exact ih (start.add mask)

theorem testBit_foldl_or (start : Nat) (masks : List Nat) (i : Nat) :
    (masks.foldl (· ||| ·) start).testBit i =
      (start.testBit i || masks.any fun mask => mask.testBit i) := by
  induction masks generalizing start with
  | nil => simp
  | cons mask rest ih => rw [List.foldl_cons, ih, Nat.testBit_or, List.any_cons, Bool.or_assoc]

theorem hasAll_natCast {grants : Grants} {mask : Nat}
    (h : ∀ i, mask.testBit i = true → grants.mask.testBit i = true) :
    grants.hasAll mask = true := by
  have hmeet : grants.mask &&& mask = mask := by
    apply Nat.eq_of_testBit_eq
    intro i
    rw [Nat.testBit_and]
    by_cases hi : mask.testBit i = true
    · simp [hi, h i hi]
    · simp [hi]
  have hmasks : meet grants.mask (mask : Int) = grants.mask &&& mask := rfl
  rw [hasAll, hmasks, hmeet, beq_self_eq_true]

theorem hasAll_combine {masks : List Nat} {mask : Nat} (h : mask ∈ masks) :
    (combine (masks.map Nat.cast)).hasAll mask = true := by
  apply hasAll_natCast
  intro i hi
  rw [combine, mask_foldl_add, testBit_foldl_or, Bool.or_eq_true, List.any_eq_true]
  exact .inr ⟨mask, h, hi⟩

/-! ## Names -/

/-- The names of a number stand for its remainder. -/
theorem ofNames_names_ofInt (n : Int) :
    ofNames ((ofInt n).names.map Value.text) = .ok ⟨(n % 256).toNat⟩ := by
  have hnamed : IsNamed ⟨(n % 256).toNat⟩ := by
    apply isNamed_of_le_all
    have hall : all.mask = 255 := rfl
    simp only [hall]
    omega
  have hmembers : (ofInt n).members = members ⟨(n % 256).toNat⟩ := by
    apply members_congr
    intro grant
    rw [contains_ofInt, contains, testBit_emod, decide_eq_true grant.bit_lt_width, Bool.true_and]
  rw [← hnamed.ofNames_names, names, names, hmembers]

theorem ofNameValue_text_eq_error {name : String} {fault : DefinitionFault}
    (h : ofNameValue (.text name) = .error fault) : fault = .unknownGrant name := by
  unfold ofNameValue at h
  simp only at h
  split at h
  · cases h
  · cases h
    rfl

/-- The first name that is unknown ends the reading. -/
theorem foldlM_eq_error_iff {names : List String} {start : Grants} {fault : DefinitionFault} :
    (names.map Value.text).foldlM (fun grants name => (ofNameValue name).map grants.union) start =
        .error fault ↔
      ∃ before first after, names = before ++ first :: after ∧
        (∀ earlier ∈ before, IsName (.text earlier)) ∧ ¬ IsName (.text first) ∧
        fault = .unknownGrant first := by
  induction names generalizing start with
  | nil =>
    constructor
    · intro h
      cases h
    · rintro ⟨before, first, after, hsplit, -⟩
      simp at hsplit
  | cons name rest ih =>
    rw [List.map_cons, List.foldlM_cons]
    rcases hname : ofNameValue (.text name) with other | set
    · have hunknown : ¬ IsName (.text name) := by
        rw [← ofNameValue_ok_iff, hname]
        simp
      have hother := ofNameValue_text_eq_error hname
      constructor
      · intro h
        cases h
        exact ⟨[], name, rest, rfl, by simp, hunknown, hother⟩
      · rintro ⟨_ | ⟨earlier, before⟩, first, after, ⟨⟩, hbefore, -, hfault⟩
        · rw [hfault, ← hother]
          rfl
        · exact absurd (hbefore name List.mem_cons_self) hunknown
    · have hknown : IsName (.text name) := (ofNameValue_ok_iff _).mp ⟨set, hname⟩
      refine (@ih (start.union set)).trans ?_
      constructor
      · rintro ⟨before, first, after, rfl, hbefore, hfirst⟩
        have hearlier : ∀ earlier ∈ name :: before, IsName (.text earlier) :=
          List.forall_mem_cons.mpr ⟨hknown, hbefore⟩
        exact ⟨name :: before, first, after, rfl, hearlier, hfirst⟩
      · rintro ⟨_ | ⟨earlier, before⟩, first, after, ⟨⟩, hbefore, hfirst⟩
        · exact absurd hknown hfirst.1
        · exact ⟨before, first, after, rfl, (List.forall_mem_cons.mp hbefore).2, hfirst⟩

/-- Names that are all known are listed in the order of their bits. -/
theorem names_of_ofNames {names : List String} {grants : Grants}
    (h : ofNames (names.map Value.text) = .ok grants) :
    grants.names = (Grant.declared.filter fun grant =>
      grant.name ∈ names ∨ Grant.allName ∈ names).map Grant.name := by
  unfold Grants.names members
  apply congrArg (List.map Grant.name)
  apply List.filter_congr
  intro grant _
  rw [Bool.eq_iff_iff, contains_ofNames h]
  simp

/-! ## The laws -/

/-- What masks hold together is listed by the bits of the grants, each once: a grant is listed
exactly when some mask has its bit. So the order and the repetition of the masks do not matter, and
more masks never lose a grant. Masks that are not negative keep every bit, known or not, and all of
them are in the union. The names of a number stand for its eight lowest bits. Names are read when all
are known, and listed in the order of the bits; otherwise the first unknown name is refused. -/
theorem masks_are_united_grant_by_grant (masks : List Int) :
    (∃ held : List Grant, (combine masks).names = held.map Grant.name ∧
      held.Pairwise (fun a b => a.bit < b.bit) ∧
      ∀ grant, grant ∈ held ↔ ∃ mask ∈ masks, bitOf mask grant.bit = true) ∧
    (∀ others : List Int, (∀ mask, mask ∈ masks ↔ mask ∈ others) →
      (combine others).names = (combine masks).names) ∧
    (∀ more : List Int, masks ⊆ more → (combine masks).names ⊆ (combine more).names) ∧
    (∀ plain : List Nat,
      (combine (plain.map Nat.cast)).mask = plain.foldl (· ||| ·) 0 ∧
      ∀ mask ∈ plain, (combine (plain.map Nat.cast)).hasAll mask = true) ∧
    (∀ n : Int, ofNames ((ofInt n).names.map Value.text) = .ok ⟨(n % 256).toNat⟩) ∧
    ∀ names : List String,
      ((∀ name ∈ names, IsName (.text name)) →
        ∃ grants, ofNames (names.map Value.text) = .ok grants ∧
          grants.names = (Grant.declared.filter fun grant =>
            grant.name ∈ names ∨ Grant.allName ∈ names).map Grant.name) ∧
      ∀ fault, ofNames (names.map Value.text) = .error fault ↔
        ∃ before first after, names = before ++ first :: after ∧
          (∀ earlier ∈ before, IsName (.text earlier)) ∧ ¬ IsName (.text first) ∧
          fault = .unknownGrant first := by
  refine ⟨⟨(combine masks).members, rfl, pairwise_members _, ?_⟩, ?_, ?_, ?_,
    ofNames_names_ofInt, ?_⟩
  · intro grant
    rw [mem_members, contains_combine]
  · intro others hsame
    have hmembers : (combine others).members = (combine masks).members := by
      apply members_congr
      intro grant
      rw [Bool.eq_iff_iff, contains_combine, contains_combine]
      simp only [hsame]
    rw [names, names, hmembers]
  · intro more hmore name hname
    rw [mem_names_iff] at hname ⊢
    obtain ⟨grant, hgrant, rfl⟩ := hname
    obtain ⟨mask, hmask, hbit⟩ := (contains_combine masks grant).mp hgrant
    exact ⟨grant, (contains_combine more grant).mpr ⟨mask, hmore hmask, hbit⟩, rfl⟩
  · intro plain
    exact ⟨mask_foldl_add empty plain, fun mask => hasAll_combine⟩
  · intro names
    refine ⟨?_, fun fault => foldlM_eq_error_iff⟩
    intro hknown
    obtain ⟨grants, hgrants⟩ := (ofNames_ok_iff (names.map Value.text)).mpr (by simpa using hknown)
    exact ⟨grants, hgrants, names_of_ofNames hgrants⟩

/-- The bits of a negative mask count as far as there are grants, in any order of the masks. -/
theorem a_negative_mask_adds_its_low_bits :
    (combine [1024, -255, 4]).names = ["ReadUsers", "ReadRoles"] ∧
    (combine [4, -255, 4, 1024]).names = ["ReadUsers", "ReadRoles"] ∧
    (combine [1024, 4]).mask = 1028 ∧
    ofNames ((ofInt (-255)).names.map Value.text) = .ok ⟨1⟩ ∧
    (∃ grants, ofNames [.text "ReadRoles", .text "ReadUsers"] = .ok grants ∧
      grants.names = ["ReadUsers", "ReadRoles"]) ∧
    ofNames [.text "All", .text "Ghost", .text "Nobody"] = .error (.unknownGrant "Ghost") := by
  obtain ⟨-, hsame, -, hplain, hnumbers, hnames⟩ := masks_are_united_grant_by_grant [1024, -255, 4]
  have hfirst : (combine [1024, -255, 4]).names = ["ReadUsers", "ReadRoles"] := by decide
  have hagain : (combine [4, -255, 4, 1024]).names = (combine [1024, -255, 4]).names := by
    apply hsame
    intro mask
    simp only [List.mem_cons, List.not_mem_nil, or_false]
    tauto
  have hread := (hnames ["ReadRoles", "ReadUsers"]).1 <| by
    simp only [List.forall_mem_cons, List.not_mem_nil, false_implies, implies_true, and_true]
    exact ⟨.inr ⟨.readRoles, rfl⟩, .inr ⟨.readUsers, rfl⟩⟩
  have hghost : ¬ IsName (.text "Ghost") := by
    rw [← ofNameValue_ok_iff]
    rintro ⟨set, ⟨⟩⟩
  have hrefused := ((hnames ["All", "Ghost", "Nobody"]).2 (.unknownGrant "Ghost")).mpr
    ⟨["All"], "Ghost", ["Nobody"], rfl, by simp [IsName, Grant.allName], hghost, rfl⟩
  exact ⟨hfirst, hagain.trans hfirst, (hplain [1024, 4]).1, hnumbers (-255), hread, hrefused⟩

end Grants

end DesktopPolicy
