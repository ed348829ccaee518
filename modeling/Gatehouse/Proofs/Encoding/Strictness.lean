import Gatehouse.Proofs.Checks
import Gatehouse.Proofs.Encoding.Base64

namespace Gatehouse.Base64

/-!
# Nothing else is read as base64

A lenient reader lets white space stand anywhere and padding at the end. It reads no text besides
those that some bytes are written as: no other alphabet, no padding in between, no symbol that
stands alone behind the last group, no spare bits that are set.

* `symbol_of_value?` — six bits have one symbol;
* `eq_encode_of_decodeFrom`, `decode_eq_ok_iff` — symbols are read as the bytes that they are
  written for, group by group;
* `bare`, `isWritten_iff` — a text without its white space and the padding at its end;
* `decodeText_eq_ok_iff` — the texts that are read as some bytes.
-/

open Checks

variable {b : UInt8} {n offset : Nat} {symbols bs : Bytes} {text : List Char}

/-! ### Symbols -/

/-- Only the symbol of six bits is read as these bits. -/
theorem symbol_of_value? (h : value? b = some n) : n < 64 ∧ symbol n = b := by
  have hbyte : UInt8.ofNat b.toNat = b := UInt8.ofNat_toNat
  simp only [value?] at h
  split_ifs at h with hupper hlower hdigit hplus hslash
  · obtain rfl := Option.some.inj h
    refine ⟨by omega, ?_⟩
    rw [symbol, if_pos (by omega), Nat.sub_add_cancel hupper.1, hbyte]
  · obtain rfl := Option.some.inj h
    refine ⟨by omega, ?_⟩
    rw [symbol, if_neg (by omega), if_pos (by omega), Nat.sub_add_cancel (by omega), hbyte]
  · obtain rfl := Option.some.inj h
    refine ⟨by omega, ?_⟩
    rw [symbol, if_neg (by omega), if_neg (by omega), if_pos (by omega), Nat.add_sub_cancel, hbyte]
  · obtain rfl := Option.some.inj h
    exact ⟨by omega, (UInt8.toNat_inj.1 hplus).symm⟩
  · obtain rfl := Option.some.inj h
    exact ⟨by omega, (UInt8.toNat_inj.1 hslash).symm⟩

theorem valueAt_eq_ok_iff : valueAt offset b = .ok n ↔ n < 64 ∧ symbol n = b := by
  constructor
  · intro h
    rw [valueAt] at h
    split at h
    · next hvalue =>
      obtain rfl := Except.ok.inj h
      exact symbol_of_value? hvalue
    · cases h
  · rintro ⟨hn, rfl⟩
    exact valueAt_symbol offset hn

/-- A reading that goes on behind a symbol goes on with its six bits. -/
theorem bind_valueAt_eq_ok_iff {α : Type} {f : Nat → Except Fault α} {a : α} :
    valueAt offset b >>= f = .ok a ↔ ∃ n, n < 64 ∧ symbol n = b ∧ f n = .ok a := by
  simp only [bind_eq_ok_iff, valueAt_eq_ok_iff, and_assoc]

/-- The alphabet. -/
example : (List.range 64).map symbol = Utf8.bytes
    "ABCDEFGHIJKLMNOPQRSTUVWXYZabcdefghijklmnopqrstuvwxyz0123456789+/" := by decide +kernel

/-! ### Groups -/

/-- Symbols that are read are those that are written for the bytes. -/
theorem eq_encode_of_decodeFrom (h : decodeFrom offset symbols = .ok bs) : symbols = encode bs := by
  have hbyte : ∀ {m : Nat}, m < 256 → (UInt8.ofNat m).toNat = m := UInt8.toNat_ofNat_of_lt'
  -- Each group of symbols is that of the bytes which its bits make up.
  fun_induction decodeFrom offset symbols generalizing bs with
  | case1 offset =>
    obtain rfl := Except.ok.inj h
    rfl
  | case2 offset a =>
    obtain ⟨x, -, hthrow⟩ := bind_eq_ok_iff.1 h
    cases hthrow
  | case3 offset a b =>
    obtain ⟨x, hx, hsx, h⟩ := bind_valueAt_eq_ok_iff.1 h
    obtain ⟨y, hy, hsy, h⟩ := bind_valueAt_eq_ok_iff.1 h
    obtain ⟨hspare, h⟩ := not_of_guard h
    obtain rfl := Except.ok.inj h
    have hfirst : (x * 4 + y / 16) / 4 = x := by omega
    have hsecond : (x * 4 + y / 16) % 4 * 16 = y := by omega
    rw [encode, hbyte (by omega), hfirst, hsecond, hsx, hsy]
  | case4 offset a b c =>
    obtain ⟨x, hx, hsx, h⟩ := bind_valueAt_eq_ok_iff.1 h
    obtain ⟨y, hy, hsy, h⟩ := bind_valueAt_eq_ok_iff.1 h
    obtain ⟨z, hz, hsz, h⟩ := bind_valueAt_eq_ok_iff.1 h
    obtain ⟨hspare, h⟩ := not_of_guard h
    obtain rfl := Except.ok.inj h
    have hfirst : (x * 4 + y / 16) / 4 = x := by omega
    have hsecond : (x * 4 + y / 16) % 4 * 16 + (y % 16 * 16 + z / 4) / 16 = y := by omega
    have hthird : (y % 16 * 16 + z / 4) % 16 * 4 = z := by omega
    rw [encode, hbyte (by omega), hbyte (by omega), hfirst, hsecond, hthird, hsx, hsy, hsz]
  | case5 offset a b c d rest ih =>
    obtain ⟨x, hx, hsx, h⟩ := bind_valueAt_eq_ok_iff.1 h
    obtain ⟨y, hy, hsy, h⟩ := bind_valueAt_eq_ok_iff.1 h
    obtain ⟨z, hz, hsz, h⟩ := bind_valueAt_eq_ok_iff.1 h
    obtain ⟨w, hw, hsw, h⟩ := bind_valueAt_eq_ok_iff.1 h
    obtain ⟨tail, htail, h⟩ := bind_eq_ok_iff.1 h
    obtain rfl := Except.ok.inj h
    have hfirst : (x * 4 + y / 16) / 4 = x := by omega
    have hsecond : (x * 4 + y / 16) % 4 * 16 + (y % 16 * 16 + z / 4) / 16 = y := by omega
    have hthird : (y % 16 * 16 + z / 4) % 16 * 4 + (z % 4 * 64 + w) / 64 = z := by omega
    have hfourth : (z % 4 * 64 + w) % 64 = w := by omega
    rw [encode, hbyte (by omega), hbyte (by omega), hbyte (by omega), hfirst, hsecond, hthird,
      hfourth, hsx, hsy, hsz, hsw, ← ih htail]

/-- Symbols without padding are read exactly if they are those of the bytes. -/
theorem decode_eq_ok_iff : decode symbols = .ok bs ↔ symbols = encode bs := by
  constructor
  · intro h
    rw [decode] at h
    split at h
    · cases h
    · exact eq_encode_of_decodeFrom h
  · rintro rfl
    exact decode_encode bs

/-! ### White space and padding -/

/-- What is left of a text without its white space and without the padding at its end. -/
def bare (text : List Char) : List Char :=
  (text.filter fun c => !Text.isAsciiBlank c).rdropWhile (· == '=')

/-- Padding is written with equals signs. -/
theorem ofAscii_append_pad (bs : Bytes) (k : Nat) :
    Utf8.ofAscii (bs ++ List.replicate k pad) = Utf8.ofAscii bs ++ List.replicate k '=' := by
  rw [Utf8.ofAscii, List.map_append, List.map_replicate]
  rfl

/-- A text is written for some bytes if it is bare of all but their symbols. -/
theorem isWritten_iff : IsWritten bs text ↔ bare text = Utf8.ofAscii (encode bs) := by
  have hnot : '=' ∉ Utf8.ofAscii (encode bs) := by
    intro h
    obtain ⟨b, hb, hchar⟩ := List.mem_map.1 h
    rw [← Char.toNat_inj, Utf8.toNat_ofNat_toNat] at hchar
    exact ne_pad_of_mem_encode bs b hb (UInt8.toNat_inj.1 hchar)
  rw [bare, rdropWhile_eq_iff hnot]
  simp only [IsWritten, ofAscii_append_pad]

/-- The symbols of a text are those of some bytes if the text is written for these. -/
theorem compact_eq_encode_iff : compact text = encode bs ↔ IsWritten bs text := by
  refine ⟨fun h => ?_, compact_of_isWritten⟩
  have hnot : pad ∉ encode bs := fun hpad => ne_pad_of_mem_encode bs pad hpad rfl
  obtain ⟨k, hk⟩ := (rdropWhile_eq_iff hnot).1 h
  exact ⟨k, Utf8.eq_ofAscii_of_encode hk (toNat_lt_of_mem_append_pad bs k)⟩

/-- A text is read as some bytes exactly if it is bare of all but their symbols. -/
theorem decodeText_eq_ok_iff : decodeText text = .ok bs ↔ bare text = Utf8.ofAscii (encode bs) := by
  rw [decodeText, decode_eq_ok_iff, compact_eq_encode_iff, isWritten_iff]

example : decodeText " QU\r\nJD\tRA= =\n".toList = .ok (Utf8.bytes "ABCD") := by decide +kernel

end Gatehouse.Base64
