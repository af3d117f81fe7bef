-- The laws of torn texts. The bytes of a text with half of a pair in it are never UTF-8, wherever the
-- half stands. So a string of JSON is read as a text, and shown in a response, exactly when it has no
-- such half; and the service fails on a body that is one.
import DesktopPolicy.Proofs.ServiceFailures

namespace DesktopPolicy

/-! ## Bytes of code points -/

namespace Text

theorem isValidUTF8_utf8_append_iff (c : Char) (rest : List UInt8) :
    (utf8 c.toString ++ rest).toByteArray.IsValidUTF8 ↔ rest.toByteArray.IsValidUTF8 := by
  have hbytes : (utf8 c.toString ++ rest).toByteArray = [c].utf8Encode ++ rest.toByteArray := by
    rw [List.toByteArray_append, toByteArray_utf8]
    simp [Char.toString]
  rw [hbytes, ByteArray.isValidUTF8_utf8Encode_singleton_append_iff]

/-- No character is made of the bytes that half of a pair would have. -/
theorem assemble_half : ∀ k < 2048, ByteArray.utf8DecodeChar?.assemble₃ 0xED
    (UInt8.ofNat (0x80 + (0xD800 + k) / 64 % 64)) (UInt8.ofNat (0x80 + (0xD800 + k) % 64)) =
      none := by
  decide +kernel

/-- The byte in front asks for two more, and the three are taken together. -/
theorem utf8DecodeChar?_cons (x y : UInt8) (rest : List UInt8) :
    (0xED :: x :: y :: rest).toByteArray.utf8DecodeChar? 0 =
      ByteArray.utf8DecodeChar?.assemble₃ 0xED x y := by
  have hsize : 0 < (0xED :: x :: y :: rest).toByteArray.size := by simp
  have hkind : ByteArray.utf8DecodeChar?.parseFirstByte (0xED :: x :: y :: rest).toByteArray[0] =
      .twoMore := by
    rw [List.getElem_toByteArray]
    cbv
  unfold ByteArray.utf8DecodeChar?
  rw [dif_pos hsize]
  split <;> rename_i hother <;> cases hkind.symm.trans hother
  simp

theorem pointBytes_of_isHalf {n : Nat} (h : isHalf n = true) : ∃ k < 2048, pointBytes n =
    [0xED, UInt8.ofNat (0x80 + (0xD800 + k) / 64 % 64), UInt8.ofNat (0x80 + (0xD800 + k) % 64)] := by
  have hbounds : 0xD800 ≤ n ∧ n < 0xE000 := by simpa [isHalf] using h
  have hn : 0xD800 + (n - 0xD800) = n := by omega
  refine ⟨n - 0xD800, by omega, ?_⟩
  rw [pointBytes, if_pos h, hn, show n / 4096 = 13 by omega]
  rfl

theorem not_isValidUTF8_of_isHalf {n : Nat} (h : isHalf n = true) (rest : List UInt8) :
    ¬ (pointBytes n ++ rest).toByteArray.IsValidUTF8 := by
  obtain ⟨k, hk, hbytes⟩ := pointBytes_of_isHalf h
  rw [hbytes]
  rintro ⟨chars, hchars⟩
  cases chars with
  | nil =>
    have hsize := congrArg ByteArray.size hchars
    simp at hsize
  | cons c others =>
    -- the characters start with one that is made of the first three bytes
    have hfirst : (c :: others).utf8Encode.utf8DecodeChar? 0 = some c :=
      List.utf8DecodeChar?_utf8Encode_cons
    rw [← hchars] at hfirst
    have hnone := (utf8DecodeChar?_cons _ _ rest).trans (assemble_half k hk)
    cases hfirst.symm.trans hnone

/-- The bytes of code points are UTF-8 exactly when none of these is half of a pair. -/
theorem isValidUTF8_points_iff (points : List Nat) :
    (points.flatMap pointBytes).toByteArray.IsValidUTF8 ↔ points.any isHalf = false := by
  induction points with
  | nil => simp
  | cons n points ih =>
    rw [List.flatMap_cons, List.any_cons]
    cases h : isHalf n with
    | true => simpa using not_isValidUTF8_of_isHalf h _
    | false =>
      rw [pointBytes, h, if_neg Bool.false_ne_true, isValidUTF8_utf8_append_iff, ih, Bool.false_or]

end Text

/-! ## Strings of JSON -/

theorem Json.ofUtf8?_points_of_torn {points : List Nat} (h : points.any Text.isHalf = true) :
    Text.ofUtf8? (points.flatMap Text.pointBytes) = none := by
  have hbytes : ¬ (points.flatMap Text.pointBytes).toByteArray.IsValidUTF8 := by
    rw [Text.isValidUTF8_points_iff, h]
    exact Bool.true_eq_false.mp
  rw [Text.ofUtf8?, String.fromUTF8?, dif_neg hbytes]

/-- A string can be shown exactly when it is not torn. -/
theorem Json.isShowable_ofPoints (points : List Nat) :
    (ofPoints points).isShowable = !points.any Text.isHalf := by
  unfold ofPoints
  split
  · rename_i h
    rw [Value.isShowable, ofUtf8?_points_of_torn h, h]
    rfl
  · rename_i h
    rw [Bool.not_eq_true] at h
    rw [h]
    rfl

/-- A string is a text exactly when it is not torn. -/
theorem Json.spelled?_ofPoints (points : List Nat) :
    Schema.spelled? (ofPoints points) =
      if points.any Text.isHalf then none else some (String.ofList (points.map Char.ofNat)) := by
  unfold ofPoints
  split
  · rename_i h
    exact ofUtf8?_points_of_torn h
  · rfl

/-! ## Torn bodies -/

/-- A string is no action, and what is wrong with it is about the string. -/
theorem Body.failsCheck_of_torn [Dialect] {permissions : Permissions} {points : List Nat}
    (h : points.any Text.isHalf = true) :
    (Body.json (Json.ofPoints points)).FailsCheck permissions := by
  have hshown : (Json.ofPoints points).isShowable = false := by
    rw [Json.isShowable_ofPoints, h]
    rfl
  unfold Json.ofPoints at hshown ⊢
  rw [if_pos h] at hshown ⊢
  exact .unshown rfl (List.mem_singleton.mpr rfl) hshown

/-- The service fails on every torn text that is sent for a decision. -/
theorem Service.fails_of_torn_body [Dialect] (service : Service) {request : Request}
    {principal : Principal} (hprincipal : request.credential.principal? = some (.ok principal))
    (hmethod : request.method = "POST")
    (hpath : (Address.ofText request.address).path = "/api/access/check") {points : List Nat}
    (hbody : Body.ofRequest request = .ok (.json (Json.ofPoints points)))
    (htorn : points.any Text.isHalf = true) : service.Fails request := by
  have hdestination := Route.destination_check service.settings.debug hpath
  rw [← hmethod] at hdestination
  exact ⟨principal, .check, [], hprincipal, hdestination,
    .check hbody (Body.failsCheck_of_torn htorn)⟩

end DesktopPolicy
