import Mathlib
import Buildwright.Text.Casing
import Buildwright.Text.Identifier

/-!
# Upper case of identifier characters

A character may stand in an identifier if and only if its upper case may. Beyond ASCII this is
checked span by span: a span of the case table and its counterpart lie both inside of the ranges of
identifier characters or both outside of them.
-/

namespace Buildwright.Text

/-! ## ASCII characters -/

theorem forall_ascii {p : Char → Prop} (h : ∀ n < 128, p (Char.ofNat n)) {c : Char}
    (hc : c.toNat < 128) : p c := by
  have hp := h c.toNat hc
  rwa [Char.ofNat_toNat] at hp

theorem toNat_lt_of_isAlphanum {c : Char} (h : c.isAlphanum = true) : c.toNat < 128 := by
  simp only [Char.isAlphanum, Char.isAlpha, Char.isUpper, Char.isLower, Char.isDigit,
    Bool.or_eq_true, Bool.and_eq_true, decide_eq_true_iff, UInt32.le_iff_toNat_le,
    Char.reduceVal, UInt32.reduceToNat, ge_iff_le] at h
  unfold Char.toNat
  omega

theorem toNat_lt_of_isUpper {c : Char} (h : c.isUpper = true) : c.toNat < 128 :=
  toNat_lt_of_isAlphanum (by simp [Char.isAlphanum, Char.isAlpha, h])

theorem toNat_lt_of_isLower {c : Char} (h : c.isLower = true) : c.toNat < 128 :=
  toNat_lt_of_isAlphanum (by simp [Char.isAlphanum, Char.isAlpha, h])

theorem isLower_of_isUpper {c : Char} (h : c.isUpper = true) : c.isLower = false :=
  forall_ascii (p := fun c => c.isUpper = true → c.isLower = false) (by decide)
    (toNat_lt_of_isUpper h) h

/-! ## Intervals of code points -/

def CodeRanges.covers (ranges : CodeRanges) (first last : Nat) : Bool :=
  (ranges.dropWhile fun r => Nat.blt r.2 first).head?.any fun r =>
    Nat.ble r.1 first && Nat.ble last r.2

def CodeRanges.avoids (ranges : CodeRanges) (first last : Nat) : Bool :=
  ranges.all fun r => Nat.blt last r.1 || Nat.blt r.2 first

theorem CodeRanges.has_of_covers {ranges : CodeRanges} {first last : Nat} {c : Char}
    (h : ranges.covers first last = true) (hfirst : first ≤ c.toNat) (hlast : c.toNat ≤ last) :
    ranges.has c = true := by
  rw [covers, Option.any_eq_true] at h
  obtain ⟨r, hr, h⟩ := h
  rw [Bool.and_eq_true, Nat.ble_eq, Nat.ble_eq] at h
  have hmem : r ∈ ranges := List.dropWhile_subset _ (List.mem_of_head? hr)
  exact (has_iff ranges c).2 ⟨r, hmem, Nat.le_trans h.1 hfirst, Nat.le_trans hlast h.2⟩

theorem CodeRanges.has_of_avoids {ranges : CodeRanges} {first last : Nat} {c : Char}
    (h : ranges.avoids first last = true) (hfirst : first ≤ c.toNat) (hlast : c.toNat ≤ last) :
    ranges.has c = false := by
  rw [Bool.eq_false_iff]
  intro hhas
  obtain ⟨r, hr, hlow, hhigh⟩ := (has_iff ranges c).1 hhas
  have hr' := List.all_eq_true.1 h r hr
  simp only [Nat.blt_eq, Bool.or_eq_true] at hr'
  omega

/-- Each range lies within one of the others, in lists with the lowest ranges first. -/
def CodeRanges.within : CodeRanges → CodeRanges → Bool
  | [], _ => true
  | r :: rest, others =>
    let left := others.dropWhile fun s => Nat.blt s.2 r.1
    left.head?.any (fun s => Nat.ble s.1 r.1 && Nat.ble r.2 s.2) && within rest left

theorem CodeRanges.has_of_within {ranges others : CodeRanges} {c : Char}
    (h : ranges.within others = true) (hc : ranges.has c = true) : others.has c = true := by
  obtain ⟨r, hr, hlow, hhigh⟩ := (has_iff ranges c).1 hc
  suffices hs : ∃ s ∈ others, s.1 ≤ r.1 ∧ r.2 ≤ s.2 by
    obtain ⟨s, hs, hfirst, hlast⟩ := hs
    exact (has_iff others c).2 ⟨s, hs, Nat.le_trans hfirst hlow, Nat.le_trans hhigh hlast⟩
  induction ranges generalizing others with
  | nil => cases hr
  | cons r' rest ih =>
    simp only [within, Bool.and_eq_true, Option.any_eq_true, Nat.ble_eq] at h
    obtain ⟨⟨s, hs, hrange⟩, hrest⟩ := h
    have hleft := List.dropWhile_subset (l := others) fun s => Nat.blt s.2 r'.1
    rcases List.mem_cons.1 hr with rfl | hr
    · exact ⟨s, hleft (List.mem_of_head? hs), hrange⟩
    · obtain ⟨s, hs, hrange⟩ := ih hrest ((has_iff rest c).2 ⟨r, hr, hlow, hhigh⟩) hr
      exact ⟨s, hleft hs, hrange⟩

/-- All code points from the first to the last are those of characters beyond ASCII. -/
def areWide (first last : Nat) : Bool :=
  Nat.ble 128 first && (Nat.blt last 0xd800 || (Nat.blt 0xdfff first && Nat.blt last 0x110000))

theorem toNat_ofNat_of_areWide {first last n : Nat} (h : areWide first last = true)
    (hfirst : first ≤ n) (hlast : n ≤ last) : (Char.ofNat n).toNat = n ∧ 128 ≤ n := by
  simp only [areWide, Bool.and_eq_true, Bool.or_eq_true, Nat.ble_eq, Nat.blt_eq] at h
  have hvalid : n.isValidChar := by
    unfold Nat.isValidChar
    omega
  have htoNat : (Char.ofNat n).toNat = n := by
    rw [Char.ofNat, dif_pos hvalid]
    rfl
  omega

theorem isIdentContinue_of_wide {c : Char} (h : 128 ≤ c.toNat) :
    isIdentContinue c = nonAsciiContinues.has c :=
  if_neg (Nat.not_lt.2 h)

theorem isIdentContinue_of_isIdentStart {c : Char} (hc : isIdentStart c = true) :
    isIdentContinue c = true := by
  have hwithin : nonAsciiStarts.within nonAsciiContinues = true := by decide +kernel
  unfold isIdentStart at hc
  unfold isIdentContinue
  split at hc
  · next hascii =>
    rw [if_pos hascii]
    simp only [Char.isAlphanum, Bool.or_eq_true] at hc ⊢
    exact hc.imp_left .inl
  · next hwide =>
    rw [if_neg hwide]
    exact CodeRanges.has_of_within hwithin hc

theorem isIdentContinue_of_isUpper {c : Char} (h : c.isUpper = true) :
    isIdentContinue c = true := by
  rw [isIdentContinue, if_pos (toNat_lt_of_isUpper h), Char.isAlphanum, Char.isAlpha, h]
  rfl

/-! ## Spans -/

/-- The character takes the part of another one in identifiers, and is a capital if it is ASCII. -/
def Replaces (x c : Char) : Prop :=
  isIdentContinue x = isIdentContinue c ∧ (x.isUpper = true ∨ 128 ≤ x.toNat)

namespace CaseSpan

def target (s : CaseSpan) (n : Nat) : Nat := (n + s.shift).toNat

def reachesWords (s : CaseSpan) : Bool :=
  let first := s.target s.first
  let last := s.target s.last
  nonAsciiContinues.covers first last ||
    (List.range (last + 1 - first)).all fun k =>
      k % s.step != 0 || nonAsciiContinues.covers (first + k) (first + k)

/-- The span leads from identifier characters to such characters, or from others to others. -/
def keepsWords (s : CaseSpan) : Bool :=
  let first := s.target s.first
  let last := s.target s.last
  (nonAsciiContinues.covers s.first s.last &&
      ((s.first == s.last && (Char.ofNat first).isUpper) ||
        (areWide first last && s.reachesWords))) ||
    (nonAsciiContinues.avoids s.first s.last && areWide first last &&
      nonAsciiContinues.avoids first last)

theorem target_bounds {s : CaseSpan} {n : Nat} (hfirst : s.first ≤ n) (hlast : n ≤ s.last) :
    s.target s.first ≤ s.target n ∧ s.target n ≤ s.target s.last := by
  unfold target
  omega

theorem has_of_reachesWords {s : CaseSpan} (hreach : s.reachesWords = true)
    (hwide : areWide (s.target s.first) (s.target s.last) = true) {n : Nat} (hfirst : s.first ≤ n)
    (hlast : n ≤ s.last) (hstep : (n - s.first) % s.step = 0) :
    nonAsciiContinues.has (Char.ofNat (s.target n)) = true := by
  obtain ⟨hlow, hhigh⟩ := target_bounds hfirst hlast
  obtain ⟨htoNat, hn⟩ := toNat_ofNat_of_areWide hwide hlow hhigh
  simp only [reachesWords, Bool.or_eq_true, List.all_eq_true, List.mem_range] at hreach
  rcases hreach with hcovers | heach
  · exact CodeRanges.has_of_covers hcovers (htoNat.symm ▸ hlow) (htoNat.symm ▸ hhigh)
  · have hshift : s.target n = s.target s.first + (n - s.first) := by
      have hpos : 128 ≤ s.target s.first :=
        (toNat_ofNat_of_areWide hwide (Nat.le_refl _) (Nat.le_trans hlow hhigh)).2
      unfold target at hpos ⊢
      omega
    have hcovers := heach (n - s.first) (by omega)
    rw [hstep, ← hshift] at hcovers
    exact CodeRanges.has_of_covers (by simpa using hcovers) (Nat.le_of_eq htoNat.symm)
      (Nat.le_of_eq htoNat)

theorem replaces_of_keepsWords {s : CaseSpan} (hs : s.keepsWords = true) {c x : Char}
    (hc : 128 ≤ c.toNat) (hx : s.map? c.toNat = some x) : Replaces x c := by
  unfold map? at hx
  split at hx
  · next hon =>
    obtain ⟨hfirst, hlast, hstep⟩ := hon
    cases hx
    obtain ⟨hlow, hhigh⟩ := target_bounds hfirst hlast
    simp only [keepsWords, Bool.or_eq_true, Bool.and_eq_true, beq_iff_eq] at hs
    rcases hs with ⟨hcovers, ⟨heq, hcapital⟩ | ⟨hwide, hreach⟩⟩ | ⟨⟨havoids, hwide⟩, htarget⟩
    · have hn : c.toNat = s.first := by omega
      have hc' := CodeRanges.has_of_covers hcovers hfirst hlast
      rw [target, ← hn] at hcapital
      refine ⟨?_, .inl hcapital⟩
      rw [isIdentContinue_of_isUpper hcapital, isIdentContinue_of_wide hc, hc']
    · have hc' := CodeRanges.has_of_covers hcovers hfirst hlast
      have hx' := has_of_reachesWords hreach hwide hfirst hlast hstep
      obtain ⟨htoNat, hn⟩ := toNat_ofNat_of_areWide hwide hlow hhigh
      rw [← htoNat] at hn
      refine ⟨?_, .inr hn⟩
      exact (isIdentContinue_of_wide hn).trans
        (hx'.trans (hc'.symm.trans (isIdentContinue_of_wide hc).symm))
    · have hc' := CodeRanges.has_of_avoids havoids hfirst hlast
      obtain ⟨htoNat, hn⟩ := toNat_ofNat_of_areWide hwide hlow hhigh
      have hx' := CodeRanges.has_of_avoids htarget (htoNat.symm ▸ hlow) (htoNat.symm ▸ hhigh)
      rw [← htoNat] at hn
      refine ⟨?_, .inr hn⟩
      exact (isIdentContinue_of_wide hn).trans
        (hx'.trans (hc'.symm.trans (isIdentContinue_of_wide hc).symm))
  · cases hx

end CaseSpan

/-! ## The tables -/

set_option maxRecDepth 10000 in
theorem keepsWords_of_mem_upperSpans : ∀ s ∈ upperSpans, s.keepsWords = true := by
  decide +kernel

/-- A character that has several in upper case is an identifier character, and so are they. -/
def isLongWord (entry : Nat × List Nat) : Bool :=
  nonAsciiContinues.covers entry.1 entry.1 && !entry.2.isEmpty && entry.2.all fun n =>
    (Char.ofNat n).isUpper || (areWide n n && nonAsciiContinues.covers n n)

theorem isLongWord_of_mem_longUppers : ∀ entry ∈ longUppers, isLongWord entry = true := by
  decide +kernel

theorem CodeRanges.has_of_covers_self {ranges : CodeRanges} {c : Char}
    (h : ranges.covers c.toNat c.toNat = true) : ranges.has c = true :=
  has_of_covers h (Nat.le_refl _) (Nat.le_refl _)

/-- The upper case of a character beyond ASCII: one character in its stead, or the several ones of
an identifier character. -/
theorem upper_of_wide {c : Char} (hc : 128 ≤ c.toNat) :
    (∃ x, upper c = [x] ∧ Replaces x c) ∨
      (isIdentContinue c = true ∧ upper c ≠ [] ∧ ∀ x ∈ upper c, Replaces x c) := by
  cases hlong : longUppers.lookup c.toNat with
  | some codes =>
    have hupper : upper c = codes.map Char.ofNat := by
      rw [upper, if_neg (Nat.not_lt.2 hc), hlong]
    have hmem : (c.toNat, codes) ∈ longUppers := by
      obtain ⟨before, after, hlist, _⟩ := List.lookup_eq_some_iff.1 hlong
      rw [hlist]
      exact List.mem_append_right _ List.mem_cons_self
    have hentry := isLongWord_of_mem_longUppers _ hmem
    simp only [isLongWord, Bool.and_eq_true, Bool.not_eq_true', List.isEmpty_eq_false_iff,
      List.all_eq_true, Bool.or_eq_true] at hentry
    obtain ⟨⟨hcovers, hne⟩, hcodes⟩ := hentry
    have hword : isIdentContinue c = true := by
      rw [isIdentContinue_of_wide hc]
      exact CodeRanges.has_of_covers_self hcovers
    refine .inr ⟨hword, ?_, fun x hx => ?_⟩
    · rw [hupper]
      simpa using hne
    · rw [hupper, List.mem_map] at hx
      obtain ⟨n, hn, rfl⟩ := hx
      rcases hcodes n hn with hcapital | ⟨hwide, hcovers⟩
      · exact ⟨(isIdentContinue_of_isUpper hcapital).trans hword.symm, .inl hcapital⟩
      · obtain ⟨htoNat, hn'⟩ := toNat_ofNat_of_areWide hwide (Nat.le_refl _) (Nat.le_refl _)
        rw [← htoNat] at hn' hcovers
        refine ⟨?_, .inr hn'⟩
        rw [hword, isIdentContinue_of_wide hn']
        exact CodeRanges.has_of_covers_self hcovers
  | none =>
    have hupper : upper c = [(upperSpans.findSome? (·.map? c.toNat)).getD c] := by
      rw [upper, if_neg (Nat.not_lt.2 hc), hlong]
    refine .inl ⟨_, hupper, ?_⟩
    cases hspan : upperSpans.findSome? (·.map? c.toNat) with
    | none => exact ⟨rfl, .inr hc⟩
    | some x =>
      obtain ⟨s, hs, hx⟩ := List.exists_of_findSome?_eq_some hspan
      exact CaseSpan.replaces_of_keepsWords (keepsWords_of_mem_upperSpans s hs) hc hx

theorem upper_of_ascii {c : Char} (hc : c.toNat < 128) : upper c = [c.toUpper] := if_pos hc

theorem upper_ne_nil (c : Char) : upper c ≠ [] := by
  by_cases hc : c.toNat < 128
  · simp [upper_of_ascii hc]
  · rcases upper_of_wide (Nat.not_lt.1 hc) with ⟨x, hx, _⟩ | ⟨_, hne, _⟩
    · simp [hx]
    · exact hne

/-- A character may stand in an identifier if and only if its upper case may. -/
theorem isIdentContinue_upper (c : Char) :
    (∀ x ∈ upper c, isIdentContinue x = true) ↔ isIdentContinue c = true := by
  by_cases hc : c.toNat < 128
  · rw [upper_of_ascii hc, List.forall_mem_singleton]
    exact forall_ascii
      (p := fun c => isIdentContinue c.toUpper = true ↔ isIdentContinue c = true) (by decide) hc
  · rcases upper_of_wide (Nat.not_lt.1 hc) with ⟨x, hx, hword, _⟩ | ⟨hword, _, hall⟩
    · rw [hx, List.forall_mem_singleton, hword]
    · exact ⟨fun _ => hword, fun _ x hx => (hall x hx).1.trans hword⟩

/-- What is ASCII in an upper case is a capital letter or the upper case of an ASCII character. -/
theorem of_mem_upper {c x : Char} (hx : x ∈ upper c) :
    (c.toNat < 128 ∧ x = c.toUpper) ∨ x.isUpper = true ∨ 128 ≤ x.toNat := by
  by_cases hc : c.toNat < 128
  · rw [upper_of_ascii hc, List.mem_singleton] at hx
    exact .inl ⟨hc, hx⟩
  · right
    rcases upper_of_wide (Nat.not_lt.1 hc) with ⟨y, hy, hcapital⟩ | ⟨_, _, hall⟩
    · rw [hy, List.mem_singleton] at hx
      exact hx ▸ hcapital.2
    · exact (hall x hx).2

end Buildwright.Text
