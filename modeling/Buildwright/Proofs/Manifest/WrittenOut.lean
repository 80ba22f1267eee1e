import Mathlib
import Buildwright.Manifest.Reader
import Buildwright.Text.Bytes

/-!
# Manifests that are written out

What is read from a manifest that is given line by line. Its characters are read off the bytes of
the lines, as evaluation decodes a long literal slowly.
-/

namespace Buildwright

namespace Text

/-! ## ASCII -/

def isAscii (s : String) : Bool := (bytes s).all (·.toNat < 128)

/-- The characters of an ASCII text. -/
def asciiChars (s : String) : List Char := (bytes s).map fun b => .ofNat b.toNat

def asciiLines? (items : List String) : Option (List Char) :=
  if items.all isAscii then some (items.flatMap fun s => asciiChars s ++ ['\n']) else none

theorem bytes_eq_flatMap (s : String) : bytes s = s.toList.flatMap String.utf8EncodeChar := by
  have h (cs : List Char) : bytes (.ofList cs) = cs.flatMap String.utf8EncodeChar := by
    show (String.ofList cs).toByteArray.data.toList = _
    rw [String.toByteArray_ofList, List.utf8Encode, List.toList_data_toByteArray]
  rw [← h, String.ofList_toList]

theorem map_utf8EncodeChar {c : Char} (h : ∀ b ∈ String.utf8EncodeChar c, b.toNat < 128) :
    (String.utf8EncodeChar c).map (fun b => Char.ofNat b.toNat) = [c] := by
  have hc : c.toNat < 128 := by
    unfold String.utf8EncodeChar at h
    dsimp only at h
    -- The first one of several bytes is at least 192.
    repeat' split at h
    all_goals
      have hbyte := h _ List.mem_cons_self
      simp only [UInt8.toNat_ofNat', Char.toNat] at hbyte ⊢
      omega
  have hbytes : String.utf8EncodeChar c = [UInt8.ofNat c.toNat] := if_pos (Nat.le_of_lt_succ hc)
  have hvalue : (UInt8.ofNat c.toNat).toNat = c.toNat := by
    rw [UInt8.toNat_ofNat', Nat.mod_eq_of_lt (by omega)]
  rw [hbytes, List.map_singleton, hvalue, Char.ofNat_toNat]

theorem toList_eq_asciiChars {s : String} (h : isAscii s = true) : s.toList = asciiChars s := by
  have hbytes : ∀ b ∈ s.toList.flatMap String.utf8EncodeChar, b.toNat < 128 := by
    intro b hb
    rw [← bytes_eq_flatMap] at hb
    simpa using List.all_eq_true.1 h b hb
  rw [asciiChars, bytes_eq_flatMap]
  generalize s.toList = cs at hbytes
  induction cs with
  | nil => rfl
  | cons c cs ih =>
    rw [List.flatMap_cons, List.forall_mem_append] at hbytes
    rw [List.flatMap_cons, List.map_append, map_utf8EncodeChar hbytes.1, ← ih hbytes.2]
    rfl

theorem toList_lines (items : List String) :
    (lines items).toList = items.flatMap fun s => s.toList ++ ['\n'] := by
  induction items with
  | nil => rfl
  | cons s rest ih =>
    rw [List.flatMap_cons, ← ih]
    show (s ++ "\n" ++ lines rest).toList = _
    rw [String.toList_append, String.toList_append]
    rfl

theorem toList_of_asciiLines? {items : List String} {cs : List Char}
    (h : asciiLines? items = some cs) : (lines items).toList = cs := by
  obtain ⟨hascii, hcs⟩ := Option.ite_none_right_eq_some.1 h
  rw [← Option.some.inj hcs, toList_lines]
  refine List.flatMap_congr fun s hs => ?_
  rw [toList_eq_asciiChars (List.all_eq_true.1 hascii s hs)]

end Text

/-! ## Reading -/

namespace Manifest

def decodeLines? (items : List String) : Option Manifest :=
  ((Text.asciiLines? items).bind Toml.readChars).bind fun node => (decode node).toOption

theorem read_of_lines {items : List String} {m : Manifest} (h : decodeLines? items = some m) :
    read (Text.lines items) = (validate (Text.lines items) m).map fun _ => m := by
  obtain ⟨node, hnode, hm⟩ := Option.bind_eq_some_iff.1 h
  obtain ⟨cs, hcs, hchars⟩ := Option.bind_eq_some_iff.1 hnode
  have hread : Toml.read (Text.lines items) = some node := by
    rw [Toml.read, Text.toList_of_asciiLines? hcs, hchars]
  cases hresult : decode node with
  | error _ =>
    rw [hresult] at hm
    cases hm
  | ok _ =>
    rw [hresult] at hm
    cases hm
    unfold read
    simp only [hread, hresult]
    show (validate (Text.lines items) m >>= fun _ => pure m) = _
    cases validate (Text.lines items) m <;> rfl

theorem read_eq_ok {items : List String} {m : Manifest} (h : decodeLines? items = some m)
    (hvalid : (validate (Text.lines items) m).isOk = true) : read (Text.lines items) = .ok m := by
  rw [read_of_lines h]
  cases hresult : validate (Text.lines items) m with
  | error _ =>
    rw [hresult] at hvalid
    cases hvalid
  | ok _ => rfl

end Manifest

end Buildwright
