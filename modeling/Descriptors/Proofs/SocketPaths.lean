import Mathlib.Data.List.TakeWhile
import Descriptors.SocketAddress
import Descriptors.Kernel.Sockets
/-! # Socket paths and what the kernel reads back

A path is put into the 108-byte path field of a Unix socket address, zero-padded, after a
check that it is non-empty and leaves room for the closing NUL. The kernel reads the field back
up to its first NUL byte, and takes the address as an abstract name when the field starts with
NUL. Nothing checks the path for NUL bytes, so what the kernel reads back is the path's bytes up
to its first NUL: the path itself exactly when it holds none.

In UTF-8 only the character U+0000 encodes to a zero byte, every byte of a longer encoding
having its high bit set; so cutting the bytes at the first zero is cutting the characters at the
first NUL, which is how the kernel model names the node it binds. -/
namespace Descriptors

namespace Bytes

theorem toList_loop_eq (bs : ByteArray) (i : Nat) (r : List UInt8) :
    ByteArray.toList.loop bs i r = r.reverse ++ bs.data.toList.drop i := by
  fun_induction ByteArray.toList.loop bs i r with
  | case1 i r h ih =>
    have hi : i < bs.data.toList.length := by simpa using h
    rw [ih, List.drop_eq_getElem_cons (l := bs.data.toList) hi]
    simp [ByteArray.get!, h]
  | case2 i r h =>
    rw [List.drop_eq_nil_of_le (by simpa using Nat.le_of_not_lt h)]
    simp

/-- The bytes of a text are the UTF-8 encodings of its characters, one after another. -/
theorem ofText_eq_flatMap (s : String) :
    ofText s = s.toList.flatMap String.utf8EncodeChar := by
  rw [ofText, ByteArray.toList, toList_loop_eq, String.toUTF8_eq_toByteArray,
    ← String.utf8Encode_toList, List.utf8Encode]
  simp

theorem utf8EncodeChar_nul : String.utf8EncodeChar '\x00' = [0] := rfl

/-- Only U+0000 encodes to a zero byte. -/
theorem zero_mem_utf8EncodeChar_iff (c : Char) :
    (0 : UInt8) ∈ String.utf8EncodeChar c ↔ c = '\x00' := by
  have hv : c = '\x00' ↔ c.val.toNat = 0 := by
    constructor
    · rintro rfl; rfl
    · intro h; exact Char.ext (UInt32.toNat_inj.mp h)
  rw [hv]
  simp only [String.utf8EncodeChar]
  -- past the one-byte range every byte is a lead or continuation byte, at least 0x80
  repeat' split
  all_goals
    simp only [List.mem_cons, List.not_mem_nil, or_false, ← UInt8.toNat_inj,
      UInt8.toNat_ofNat', UInt8.toNat_zero]
    omega

theorem zero_mem_ofText_iff (s : String) : (0 : UInt8) ∈ ofText s ↔ '\x00' ∈ s.toList := by
  simp [ofText_eq_flatMap, zero_mem_utf8EncodeChar_iff]

/-- Cutting the encoding at its first zero byte encodes the characters before the first NUL. -/
theorem takeWhile_flatMap_utf8EncodeChar (l : List Char) :
    (l.flatMap String.utf8EncodeChar).takeWhile (· != 0) =
      (l.takeWhile (· != '\x00')).flatMap String.utf8EncodeChar := by
  induction l with
  | nil => rfl
  | cons c l ih =>
    by_cases hc : c = '\x00'
    · subst hc
      simp [utf8EncodeChar_nul]
    · have hpos : ∀ b ∈ String.utf8EncodeChar c, (b != 0) = true := by
        intro b hb
        have : b ≠ 0 := fun h => hc ((zero_mem_utf8EncodeChar_iff c).1 (h ▸ hb))
        simpa using this
      rw [List.flatMap_cons, List.takeWhile_append_of_pos hpos, ih]
      simp [hc]

/-- The bytes of a text have no zero to stop at exactly when the text holds no NUL. -/
theorem takeWhile_ofText_eq_self_iff (s : String) :
    (ofText s).takeWhile (· != 0) = ofText s ↔ '\x00' ∉ s.toList := by
  rw [List.takeWhile_eq_self_iff, ← zero_mem_ofText_iff, ← List.forall_mem_ne']
  simp only [bne_iff_ne, ne_eq]

theorem head?_utf8EncodeChar_eq_zero_iff (c : Char) :
    (String.utf8EncodeChar c).head? = some 0 ↔ c = '\x00' := by
  constructor
  · intro h
    exact (zero_mem_utf8EncodeChar_iff c).1 (List.mem_of_mem_head? h)
  · rintro rfl
    rfl

/-- The first byte of a text is zero exactly when its first character is NUL. -/
theorem head?_ofText_eq_zero_iff (s : String) :
    (ofText s).head? = some 0 ↔ s.toList.head? = some '\x00' := by
  rw [ofText_eq_flatMap]
  cases s.toList with
  | nil => simp
  | cons c l =>
    have hfirst : (String.utf8EncodeChar c).head?.isSome :=
      List.isSome_head?.2 String.utf8EncodeChar_ne_nil
    rw [List.flatMap_cons, List.head?_append, Option.or_of_isSome hfirst,
      head?_utf8EncodeChar_eq_zero_iff, List.head?_cons, Option.some.injEq, eq_comm]

end Bytes

namespace Kernel.State

/-- The bytes of the path the kernel binds are the address's bytes up to the first zero. -/
theorem ofText_addressPath (p : String) :
    Bytes.ofText (addressPath p) = (Bytes.ofText p).takeWhile (· != 0) := by
  rw [addressPath, Bytes.ofText_eq_flatMap, Bytes.ofText_eq_flatMap, String.toList_ofList,
    Bytes.takeWhile_flatMap_utf8EncodeChar]

/-- The kernel binds a path as it was given exactly when it holds no NUL. -/
theorem addressPath_eq_self_iff (p : String) : addressPath p = p ↔ '\x00' ∉ p.toList := by
  rw [addressPath, ← String.toList_inj, String.toList_ofList, List.takeWhile_eq_self_iff,
    ← List.forall_mem_ne']
  simp only [bne_iff_ne, ne_eq]

theorem startsWith_nul_iff (p : String) :
    p.startsWith "\x00" = true ↔ p.toList.head? = some '\x00' := by
  simp only [String.startsWith_string_iff]
  cases p.toList <;> simp [eq_comm]

end Kernel.State

namespace SocketAddress

/-- Whether a path's bytes cannot go into the path field: none, or no room for the NUL. -/
def Refused (p : String) : Prop :=
  Bytes.ofText p = [] ∨ fieldSize ≤ (Bytes.ofText p).length

instance (p : String) : Decidable (Refused p) := inferInstanceAs (Decidable (_ ∨ _))

theorem ofPath_of_refused {p : String} (h : Refused p) :
    ofPath p = .error IoError.socketPathRejected := by
  rcases h with h | h <;> simp [ofPath, h]

/-- A path that fits is copied to the front of a zeroed field. -/
theorem ofPath_of_fits {p : String} (h : ¬Refused p) :
    ofPath p = .ok ⟨Bytes.ofText p ++
      List.replicate (fieldSize - (Bytes.ofText p).length) 0⟩ := by
  simp only [Refused, not_or] at h
  simp [ofPath, h.1, Nat.lt_of_not_le h.2]

theorem ofPath_eq_error_iff (p : String) :
    ofPath p = .error IoError.socketPathRejected ↔ Refused p := by
  by_cases h : Refused p
  · simp [h, ofPath_of_refused h]
  · simp [h, ofPath_of_fits h]

/-- Zero padding ends the string the kernel reads, whatever the bytes before it. -/
theorem takeWhile_append_zeros (bs : List UInt8) {k : Nat} (hk : 0 < k) :
    (bs ++ List.replicate k 0).takeWhile (· != 0) = bs.takeWhile (· != 0) := by
  induction bs with
  | nil =>
    obtain ⟨k, rfl⟩ := Nat.exists_eq_add_one_of_ne_zero (Nat.pos_iff_ne_zero.1 hk)
    simp [List.replicate_succ]
  | cons b bs ih =>
    by_cases hb : b = 0 <;> simp [hb, ih]

theorem decoded_padded (bs : List UInt8) {k : Nat} (hk : 0 < k) :
    decoded ⟨bs ++ List.replicate k 0⟩ = bs.takeWhile (· != 0) :=
  takeWhile_append_zeros bs hk

theorem isAbstract_padded {bs : List UInt8} (hbs : bs ≠ []) (k : Nat) :
    isAbstract ⟨bs ++ List.replicate k 0⟩ = true ↔ bs.head? = some 0 := by
  obtain ⟨b, bs, rfl⟩ := List.exists_cons_of_ne_nil hbs
  simp [isAbstract]

/-- The address of a path. A path is refused with `socketPathRejected` exactly when its bytes
are empty or leave no room for the closing NUL. Any other path fills the whole field, and the
kernel reads back from it the path's bytes up to the first NUL: the very bytes of the path the
kernel binds, and the bytes of the given path exactly when it holds no NUL. The address is an
abstract name exactly when the path starts with NUL, which is how the kernel's bind tells the
two namespaces apart; and the kernel binds the path it was given exactly when that holds no
NUL. -/
theorem ofPath_reads_back_before_nul (p : String) :
    (ofPath p = .error IoError.socketPathRejected ↔ Refused p) ∧
    (¬Refused p → ∃ a, ofPath p = .ok a ∧ a.field.length = fieldSize ∧
      a.decoded = Bytes.ofText (Kernel.State.addressPath p) ∧
      (a.decoded = Bytes.ofText p ↔ '\x00' ∉ p.toList) ∧
      (a.isAbstract = true ↔ p.startsWith "\x00" = true) ∧
      (Kernel.State.addressPath p = p ↔ '\x00' ∉ p.toList)) := by
  refine ⟨ofPath_eq_error_iff p, fun h => ?_⟩
  have hfits : Bytes.ofText p ≠ [] ∧ (Bytes.ofText p).length < fieldSize := by
    simpa only [Refused, not_or, Nat.not_le] using h
  refine ⟨_, ofPath_of_fits h, ?_, ?_, ?_, ?_, Kernel.State.addressPath_eq_self_iff p⟩
  · simp
    omega
  · rw [decoded_padded _ (by omega), Kernel.State.ofText_addressPath]
  · rw [decoded_padded _ (by omega), Bytes.takeWhile_ofText_eq_self_iff]
  · rw [isAbstract_padded hfits.1, Bytes.head?_ofText_eq_zero_iff,
      Kernel.State.startsWith_nul_iff]

/-- A path of plain characters binds where it says. -/
theorem plain_path_reads_back :
    ¬Refused "sock" ∧ ∃ a, ofPath "sock" = .ok a ∧ a.field.length = fieldSize ∧
      a.decoded = Bytes.ofText (Kernel.State.addressPath "sock") ∧
      (a.decoded = Bytes.ofText "sock" ↔ '\x00' ∉ "sock".toList) ∧
      (a.isAbstract = true ↔ "sock".startsWith "\x00" = true) ∧
      (Kernel.State.addressPath "sock" = "sock" ↔ '\x00' ∉ "sock".toList) :=
  ⟨by decide +kernel, (ofPath_reads_back_before_nul "sock").2 (by decide +kernel)⟩

/-- A path with a NUL inside is not refused, and the kernel reads back only its bytes before
the NUL. -/
theorem ofPath_accepts_interior_nul :
    ∃ a, ofPath "a\x00b" = .ok a ∧ a.decoded = Bytes.ofText "a" ∧
      a.decoded ≠ Bytes.ofText "a\x00b" := by
  refine ⟨_, ofPath_of_fits (by decide +kernel), ?_, ?_⟩ <;> decide +kernel

end SocketAddress

end Descriptors
