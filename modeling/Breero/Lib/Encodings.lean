import Mathlib.Tactic.Common

/-!
Bytes as text: the encodings that JSON may have, told apart by the first bytes, and their decoders.
A surrogate that stands alone is let through, as by the handler `surrogatepass`.

* `decodeBytes` is what is read, and `encodeUtf8` what is written;
* `decodeBytes_encodeUtf8`: a text that begins with ASCII and has no NUL is read as it was written.
-/

namespace Encodings

inductive Encoding
  | utf8
  | utf16 (big : Bool)
  | utf32 (big : Bool)
  deriving DecidableEq, Repr

/-- The encoding, and the bytes after its mark if it has one. -/
def detectEncoding : List Nat → Encoding × List Nat
  | 0 :: 0 :: 0xFE :: 0xFF :: rest => (.utf32 true, rest)
  | 0xFF :: 0xFE :: 0 :: 0 :: rest => (.utf32 false, rest)
  | 0xFE :: 0xFF :: rest => (.utf16 true, rest)
  | 0xFF :: 0xFE :: rest => (.utf16 false, rest)
  | 0xEF :: 0xBB :: 0xBF :: rest => (.utf8, rest)
  | a :: b :: c :: d :: rest =>
    let encoding : Encoding :=
      if a = 0 then if b = 0 then .utf32 true else .utf16 true
      else if b = 0 then if c = 0 ∧ d = 0 then .utf32 false else .utf16 false
      else .utf8
    (encoding, a :: b :: c :: d :: rest)
  | [a, b] => (if a = 0 then .utf16 true else if b = 0 then .utf16 false else .utf8, [a, b])
  | bytes => (.utf8, bytes)

/-- A byte that continues a code point. -/
def isTail (b : Nat) : Bool := 0x80 ≤ b && b ≤ 0xBF

def decodeUtf8 : List Nat → Option (List Nat)
  | [] => some []
  | a :: rest =>
    if a < 0x80 then (decodeUtf8 rest).map (a :: ·)
    else
      match rest with
      | [] => none
      | b :: rest =>
        if 0xC2 ≤ a ∧ a ≤ 0xDF ∧ isTail b then
          (decodeUtf8 rest).map (((a - 0xC0) * 64 + (b - 0x80)) :: ·)
        else
          match rest with
          | [] => none
          | c :: rest =>
            if 0xE0 ≤ a ∧ a ≤ 0xEF ∧ isTail b ∧ isTail c ∧ (a = 0xE0 → 0xA0 ≤ b) then
              (decodeUtf8 rest).map (((a - 0xE0) * 4096 + (b - 0x80) * 64 + (c - 0x80)) :: ·)
            else
              match rest with
              | [] => none
              | d :: rest =>
                if 0xF0 ≤ a ∧ a ≤ 0xF4 ∧ isTail b ∧ isTail c ∧ isTail d ∧
                    (a = 0xF0 → 0x90 ≤ b) ∧ (a = 0xF4 → b ≤ 0x8F) then
                  (decodeUtf8 rest).map (((a - 0xF0) * 262144 + (b - 0x80) * 4096 +
                    (c - 0x80) * 64 + (d - 0x80)) :: ·)
                else none

def utf16Units (big : Bool) : List Nat → Option (List Nat)
  | [] => some []
  | a :: b :: rest =>
    (utf16Units big rest).map ((if big then a * 256 + b else b * 256 + a) :: ·)
  | [_] => none

/-- A high and a low surrogate are one code point. -/
def joinSurrogates : List Nat → List Nat
  | high :: low :: rest =>
    if 0xD800 ≤ high ∧ high ≤ 0xDBFF ∧ 0xDC00 ≤ low ∧ low ≤ 0xDFFF then
      (0x10000 + (high - 0xD800) * 0x400 + (low - 0xDC00)) :: joinSurrogates rest
    else high :: joinSurrogates (low :: rest)
  | units => units

def decodeUtf32 (big : Bool) : List Nat → Option (List Nat)
  | [] => some []
  | a :: b :: c :: d :: rest =>
    let code :=
      if big then ((a * 256 + b) * 256 + c) * 256 + d else ((d * 256 + c) * 256 + b) * 256 + a
    if code ≤ 0x10FFFF then (decodeUtf32 big rest).map (code :: ·) else none
  | _ => none

def Encoding.decode : Encoding → List Nat → Option (List Nat)
  | .utf8, bytes => decodeUtf8 bytes
  | .utf16 big, bytes => (utf16Units big bytes).map joinSurrogates
  | .utf32 big, bytes => decodeUtf32 big bytes

/-- `b.decode(detect_encoding(b), "surrogatepass")`, if it does not raise. -/
def decodeBytes (bytes : List UInt8) : Option (List Nat) :=
  let (encoding, rest) := detectEncoding (bytes.map UInt8.toNat)
  encoding.decode rest

/-! ## Writing -/

/-- A code point that is no surrogate. -/
def IsScalar (c : Nat) : Prop := c < 0xD800 ∨ (0xE000 ≤ c ∧ c < 0x110000)

instance : DecidablePred IsScalar := fun c => inferInstanceAs (Decidable (c < _ ∨ _))

def utf8Units (c : Nat) : List Nat :=
  if c < 0x80 then [c]
  else if c < 0x800 then [0xC0 + c / 64, 0x80 + c % 64]
  else if c < 0x10000 then [0xE0 + c / 4096, 0x80 + c / 64 % 64, 0x80 + c % 64]
  else [0xF0 + c / 262144, 0x80 + c / 4096 % 64, 0x80 + c / 64 % 64, 0x80 + c % 64]

/-- `s.encode()`, for a text without surrogates. -/
def encodeUtf8 (text : List Nat) : List UInt8 := (text.flatMap utf8Units).map UInt8.ofNat

theorem isTail_low (c : Nat) : isTail (0x80 + c % 64) = true := by
  simp only [isTail, Bool.and_eq_true, decide_eq_true_eq]
  omega

theorem decodeUtf8_utf8Units {c : Nat} (h : IsScalar c) (rest : List Nat) :
    decodeUtf8 (utf8Units c ++ rest) = (decodeUtf8 rest).map (c :: ·) := by
  unfold IsScalar at h
  unfold utf8Units
  split
  · next hone =>
    rw [List.cons_append, List.nil_append, decodeUtf8.eq_def]
    simp only [if_pos hone]
  split
  · next hone htwo =>
    have hlead : ¬ 0xC0 + c / 64 < 0x80 := by omega
    have hcode : (0xC0 + c / 64 - 0xC0) * 64 + (0x80 + c % 64 - 0x80) = c := by omega
    have hrange : 0xC2 ≤ 0xC0 + c / 64 ∧ 0xC0 + c / 64 ≤ 0xDF := by omega
    rw [List.cons_append, List.cons_append, List.nil_append, decodeUtf8.eq_def]
    simp only [if_neg hlead, hrange, isTail_low, and_self, if_true, hcode]
  split
  · next hone htwo hthree =>
    have hlead : ¬ 0xE0 + c / 4096 < 0x80 := by omega
    have hnot : ¬ (0xC2 ≤ 0xE0 + c / 4096 ∧ 0xE0 + c / 4096 ≤ 0xDF ∧
        isTail (0x80 + c / 64 % 64)) := by omega
    have hrange : 0xE0 ≤ 0xE0 + c / 4096 ∧ 0xE0 + c / 4096 ≤ 0xEF := by omega
    have hlow : 0xE0 + c / 4096 = 0xE0 → 0xA0 ≤ 0x80 + c / 64 % 64 := by omega
    have hcode : (0xE0 + c / 4096 - 0xE0) * 4096 + (0x80 + c / 64 % 64 - 0x80) * 64 +
        (0x80 + c % 64 - 0x80) = c := by omega
    rw [List.cons_append, List.cons_append, List.cons_append, List.nil_append, decodeUtf8.eq_def]
    simp only [if_neg hlead, if_neg hnot]
    rw [if_pos ⟨hrange.1, hrange.2, isTail_low _, isTail_low _, hlow⟩, hcode]
  · next hone htwo hthree =>
    have hlead : ¬ 0xF0 + c / 262144 < 0x80 := by omega
    have hnot : ¬ (0xC2 ≤ 0xF0 + c / 262144 ∧ 0xF0 + c / 262144 ≤ 0xDF ∧
        isTail (0x80 + c / 4096 % 64)) := by omega
    have hnot' : ¬ (0xE0 ≤ 0xF0 + c / 262144 ∧ 0xF0 + c / 262144 ≤ 0xEF ∧
        isTail (0x80 + c / 4096 % 64) ∧ isTail (0x80 + c / 64 % 64) ∧
        (0xF0 + c / 262144 = 0xE0 → 0xA0 ≤ 0x80 + c / 4096 % 64)) := by omega
    have hrange : 0xF0 ≤ 0xF0 + c / 262144 ∧ 0xF0 + c / 262144 ≤ 0xF4 := by omega
    have hlow : 0xF0 + c / 262144 = 0xF0 → 0x90 ≤ 0x80 + c / 4096 % 64 := by omega
    have hhigh : 0xF0 + c / 262144 = 0xF4 → 0x80 + c / 4096 % 64 ≤ 0x8F := by omega
    have hcode : (0xF0 + c / 262144 - 0xF0) * 262144 + (0x80 + c / 4096 % 64 - 0x80) * 4096 +
        (0x80 + c / 64 % 64 - 0x80) * 64 + (0x80 + c % 64 - 0x80) = c := by omega
    rw [List.cons_append, List.cons_append, List.cons_append, List.cons_append, List.nil_append,
      decodeUtf8.eq_def]
    simp only [if_neg hlead, if_neg hnot, if_neg hnot']
    rw [if_pos ⟨hrange.1, hrange.2, isTail_low _, isTail_low _, isTail_low _, hlow, hhigh⟩, hcode]

theorem decodeUtf8_flatMap {text : List Nat} (h : ∀ c ∈ text, IsScalar c) :
    decodeUtf8 (text.flatMap utf8Units) = some text := by
  induction text with
  | nil => rfl
  | cons c text ih =>
    rw [List.flatMap_cons, decodeUtf8_utf8Units (h c (by simp)),
      ih fun c hc => h c (List.mem_cons_of_mem _ hc)]
    rfl

theorem utf8Units_bounds {c unit : Nat} (hscalar : IsScalar c) (hc : c ≠ 0)
    (h : unit ∈ utf8Units c) : 0 < unit ∧ unit < 256 := by
  unfold IsScalar at hscalar
  unfold utf8Units at h
  split at h
  · simp only [List.mem_singleton] at h
    omega
  split at h
  · simp only [List.mem_cons, List.not_mem_nil, or_false] at h
    omega
  split at h
  · simp only [List.mem_cons, List.not_mem_nil, or_false] at h
    omega
  · simp only [List.mem_cons, List.not_mem_nil, or_false] at h
    omega

/-- Bytes that begin with ASCII, and of which none is NUL, have no mark and are UTF-8. -/
theorem detectEncoding_ascii {a : Nat} {rest : List Nat} (ha : a < 0x80)
    (h : ∀ b ∈ a :: rest, 0 < b) : detectEncoding (a :: rest) = (.utf8, a :: rest) := by
  have hpos := h a (by simp)
  unfold detectEncoding
  split
  · next heq =>
    injection heq
    omega
  · next heq =>
    injection heq
    omega
  · next heq =>
    injection heq
    omega
  · next heq =>
    injection heq
    omega
  · next heq =>
    injection heq
    omega
  · next b _ _ _ _ _ _ _ _ heq =>
    cases heq
    have hb := h b (by simp)
    simp only [if_neg (Nat.ne_of_gt hpos), if_neg (Nat.ne_of_gt hb)]
  · next b _ _ heq =>
    cases heq
    have hb := h b (by simp)
    simp only [if_neg (Nat.ne_of_gt hpos), if_neg (Nat.ne_of_gt hb)]
  · rfl

/-- What is written in UTF-8 is read again. -/
theorem decodeBytes_encodeUtf8 {c : Nat} {text : List Nat} (hc : c < 0x80)
    (hscalar : ∀ code ∈ c :: text, IsScalar code) (hnul : 0 ∉ c :: text) :
    decodeBytes (encodeUtf8 (c :: text)) = some (c :: text) := by
  have hbounds : ∀ unit ∈ (c :: text).flatMap utf8Units, 0 < unit ∧ unit < 256 := by
    intro unit hunit
    obtain ⟨code, hcode, hmem⟩ := List.mem_flatMap.mp hunit
    exact utf8Units_bounds (hscalar code hcode) (fun hzero => hnul (hzero ▸ hcode)) hmem
  have hbytes : (encodeUtf8 (c :: text)).map UInt8.toNat = (c :: text).flatMap utf8Units := by
    rw [encodeUtf8, List.map_map]
    refine (List.map_congr_left fun unit hunit => ?_).trans (List.map_id _)
    exact Nat.mod_eq_of_lt (hbounds unit hunit).2
  have hhead : (c :: text).flatMap utf8Units = c :: text.flatMap utf8Units := by
    rw [List.flatMap_cons, utf8Units, if_pos hc]
    rfl
  have hdetect : detectEncoding ((c :: text).flatMap utf8Units) =
      (.utf8, (c :: text).flatMap utf8Units) := by
    rw [hhead]
    exact detectEncoding_ascii hc fun b hb => (hbounds b (hhead ▸ hb)).1
  simp only [decodeBytes, hbytes, hdetect, Encoding.decode]
  exact decodeUtf8_flatMap hscalar

end Encodings
