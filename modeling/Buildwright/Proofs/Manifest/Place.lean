import Buildwright.Manifest.Validation
import Buildwright.Proofs.Text.Occurrence

/-!
# Reported places cover the name

A name is looked for between texts that may surround it in a manifest. Whatever the text and the
name, a place that is reported is a stretch of the text that holds the name and nothing else.
-/

namespace Buildwright

open Text (StandsAt)

/-- The stretch lies in the text, begins and ends between two characters, and its bytes are those of
the name. -/
structure Toml.Span.Covers (span : Toml.Span) (source name : String) : Prop where
  within : span.start + span.length ≤ source.utf8ByteSize
  start : String.Pos.Raw.IsValid source ⟨span.start⟩
  stop : String.Pos.Raw.IsValid source ⟨span.start + span.length⟩
  bytes : source.toByteArray.extract span.start (span.start + span.length) = name.toByteArray

theorem Toml.Span.covers_of_append (before name after : String) :
    Covers ⟨before.utf8ByteSize, name.utf8ByteSize⟩ (before ++ name ++ after) name where
  within := by
    rw [String.utf8ByteSize_append, String.utf8ByteSize_append]
    exact Nat.le_add_right _ _
  start := by
    refine String.Pos.Raw.isValid_iff_exists_append.2 ⟨before, name ++ after, ?_, rfl⟩
    rw [String.append_assoc]
  stop := by
    refine String.Pos.Raw.isValid_iff_exists_append.2 ⟨before ++ name, after, rfl, ?_⟩
    rw [String.Pos.Raw.ext_iff, String.byteIdx_rawEndPos, String.utf8ByteSize_append]
  bytes := by
    rw [String.append_assoc, String.toByteArray_append, String.toByteArray_append]
    show ByteArray.extract _ (before.toByteArray.size + 0)
      (before.toByteArray.size + name.toByteArray.size) = _
    rw [ByteArray.extract_append_size_add]
    exact ByteArray.extract_append_eq_left rfl

/-- Where a name stands between two texts, the stretch between them covers it. -/
theorem Toml.Span.covers_of_standsAt {before after source name : String} {start : Nat}
    (h : StandsAt (before ++ name ++ after) source start) :
    Covers ⟨start + before.utf8ByteSize, name.utf8ByteSize⟩ source name := by
  obtain ⟨first, last, rfl, rfl⟩ := h
  have hsource : first ++ (before ++ name ++ after) ++ last =
      first ++ before ++ name ++ (after ++ last) := by
    simp only [String.append_assoc]
  have hsize : first.utf8ByteSize + before.utf8ByteSize = (first ++ before).utf8ByteSize := by
    rw [String.utf8ByteSize_append]
  rw [hsource, hsize]
  exact covers_of_append _ _ _

namespace Manifest

open Toml (Span)

def nameForms : List (String × String) :=
  [("name = \"", "\""), ("name = '", "'"), ("name=\"", "\""), ("\"", ":"), ("\"", "\"")]

theorem namePatterns_eq (name : String) :
    namePatterns name = nameForms.map fun (before, after) =>
      (before ++ name ++ after, before.utf8ByteSize) := rfl

variable {source name : String}

theorem form_ne_empty {form : String × String} (hform : form ∈ nameForms) :
    form.1 ++ name ++ form.2 ≠ "" := by
  intro hempty
  have hfirst : form.1 = "" := by
    rw [String.append_eq_empty_iff, String.append_eq_empty_iff] at hempty
    exact hempty.1.1
  have hforms : ∀ form ∈ nameForms, form.1 ≠ "" := by decide
  exact hforms form hform hfirst

/-- A name has no place if and only if it stands nowhere in one of the forms. -/
theorem placeOfName_eq_none :
    placeOfName source name = none ↔
      ∀ form ∈ nameForms, ∀ p, ¬ StandsAt (form.1 ++ name ++ form.2) source p := by
  rw [placeOfName, namePatterns_eq, List.findSome?_map, List.findSome?_eq_none_iff]
  refine forall₂_congr fun form hform => ?_
  rw [← Text.head?_occurrences_eq_none (form_ne_empty hform)]
  exact Option.map_eq_none_iff

/-- The place of a name is the leftmost one of the first form in which the name stands. -/
theorem placeOfName_eq_some {span : Span} :
    placeOfName source name = some span ↔
      ∃ earlier before after later, nameForms = earlier ++ (before, after) :: later ∧
        (∀ form ∈ earlier, ∀ p, ¬ StandsAt (form.1 ++ name ++ form.2) source p) ∧
        ∃ start, StandsAt (before ++ name ++ after) source start ∧
          (∀ p, StandsAt (before ++ name ++ after) source p → start ≤ p) ∧
          span = ⟨start + before.utf8ByteSize, name.utf8ByteSize⟩ := by
  rw [placeOfName, namePatterns_eq, List.findSome?_map, List.findSome?_eq_some_iff]
  refine exists_congr fun earlier => ?_
  rw [Prod.exists]
  refine exists₃_congr fun before after later => and_congr_right fun hforms => ?_
  have hform : (before, after) ∈ nameForms := by
    rw [hforms]
    exact List.mem_append_right _ List.mem_cons_self
  have hearlier : (∀ form ∈ earlier, ∀ p, ¬ StandsAt (form.1 ++ name ++ form.2) source p) ↔
      ∀ form ∈ earlier,
        (Text.occurrences (form.1 ++ name ++ form.2) source).head? = none := by
    refine forall₂_congr fun form hmem => ?_
    have hmem' : form ∈ nameForms := by
      rw [hforms]
      exact List.mem_append_left _ hmem
    rw [Text.head?_occurrences_eq_none (form_ne_empty hmem')]
  rw [hearlier, and_comm]
  refine and_congr (forall₂_congr fun form _ => Option.map_eq_none_iff) ?_
  rw [Function.comp_apply, Option.map_eq_some_iff]
  refine exists_congr fun start => ?_
  rw [Text.head?_occurrences_eq_some (form_ne_empty hform), and_assoc, eq_comm (b := span)]

theorem covers_of_placeOfName {span : Span} (h : placeOfName source name = some span) :
    span.Covers source name := by
  obtain ⟨_, before, after, _, _, _, start, hstands, _, rfl⟩ := placeOfName_eq_some.1 h
  exact Span.covers_of_standsAt hstands

theorem covers_of_mem_placesOfArgument {span : Span} (h : span ∈ placesOfArgument source name) :
    span.Covers source name := by
  obtain ⟨start, hstart, rfl⟩ := List.mem_map.1 h
  exact Span.covers_of_standsAt (Text.standsAt_of_mem_occurrences hstart)

theorem covers_of_mem_placesOfGeneric {span : Span} (h : span ∈ placesOfGeneric source name) :
    span.Covers source name := by
  obtain ⟨start, hstart, rfl⟩ := List.mem_map.1 h
  rcases List.mem_append.1 (List.mem_mergeSort.1 hstart) with hstart | hstart
  · exact Span.covers_of_standsAt (Text.standsAt_of_mem_occurrences hstart)
  · exact Span.covers_of_standsAt (Text.standsAt_of_mem_occurrences hstart)

/-- The places of an argument are apart from each other, from left to right. -/
theorem pairwise_placesOfArgument (source name : String) :
    (placesOfArgument source name).Pairwise fun a b =>
      a.start < b.start ∧ a.start + a.length ≤ b.start := by
  refine List.pairwise_map.2 ((Text.pairwise_occurrences _ source).imp fun {p q} h => ?_)
  have hpattern : ("\"" ++ name ++ ":").utf8ByteSize = name.utf8ByteSize + 2 := by
    rw [String.utf8ByteSize_append, String.utf8ByteSize_append]
    show 1 + name.utf8ByteSize + 1 = _
    omega
  rw [hpattern] at h
  constructor
  · show p + 1 < q + 1
    omega
  · show p + 1 + name.utf8ByteSize ≤ q + 1
    omega

namespace Context

/-- Every place that a context reports for a name covers the name: the place of the name itself, the
two places of a repeated argument, of which the first is over before the second begins, and the
place of a shadowing parameter. A name has no place of its own if and only if it stands nowhere in
one of the forms; otherwise it has the leftmost place of the first form in which it stands. -/
theorem places_cover_name (c : Context) (name function owner : String) :
    (∀ span ∈ (c.place name).toList ++
        (c.duplicateArgument name function).labels.map (·.2) ++
        (c.shadowedGeneric name function owner).labels.map (·.2),
      span.Covers c.source name) ∧
    (∀ first second, c.duplicateArgument name function =
        .duplicateArgument name function (some first) (some second) →
      first.start < second.start ∧ first.start + first.length ≤ second.start) ∧
    (c.place name = none ↔
      ∀ form ∈ nameForms, ∀ p, ¬ StandsAt (form.1 ++ name ++ form.2) c.source p) ∧
    ∀ span, c.place name = some span ↔
      ∃ earlier before after later, nameForms = earlier ++ (before, after) :: later ∧
        (∀ form ∈ earlier, ∀ p, ¬ StandsAt (form.1 ++ name ++ form.2) c.source p) ∧
        ∃ start, StandsAt (before ++ name ++ after) c.source start ∧
          (∀ p, StandsAt (before ++ name ++ after) c.source p → start ≤ p) ∧
          span = ⟨start + before.utf8ByteSize, name.utf8ByteSize⟩ := by
  refine ⟨fun span hspan => ?covers, fun first second hlabels => ?apart, placeOfName_eq_none,
    fun _ => placeOfName_eq_some⟩
  case covers =>
    rw [List.mem_append, List.mem_append, Option.mem_toList] at hspan
    rcases hspan with (hplace | hargument) | hgeneric
    · exact covers_of_placeOfName hplace
    · apply covers_of_mem_placesOfArgument
      simp only [duplicateArgument, ManifestFault.labels, List.map_append, List.mem_append,
        List.mem_map, Option.mem_toList, Option.map_eq_some_iff] at hargument
      rcases hargument with ⟨_, ⟨place, hplace, rfl⟩, rfl⟩ | ⟨_, ⟨place, hplace, rfl⟩, rfl⟩
      · exact List.mem_of_getElem? hplace
      · exact List.mem_of_getElem? hplace
    · apply covers_of_mem_placesOfGeneric
      simp only [shadowedGeneric, ManifestFault.labels, List.mem_map, Option.mem_toList,
        Option.map_eq_some_iff] at hgeneric
      obtain ⟨_, ⟨place, hplace, rfl⟩, rfl⟩ := hgeneric
      exact List.mem_of_getElem? hplace
  case apart =>
    obtain ⟨hfirst, hsecond⟩ :
        (placesOfArgument c.source name)[0]? = some first ∧
          (placesOfArgument c.source name)[1]? = some second := by
      simpa [duplicateArgument] using hlabels
    obtain ⟨_, hfirst⟩ := List.getElem?_eq_some_iff.1 hfirst
    obtain ⟨hlength, hsecond⟩ := List.getElem?_eq_some_iff.1 hsecond
    rw [← hfirst, ← hsecond]
    exact List.pairwise_iff_getElem.1 (pairwise_placesOfArgument c.source name) 0 1 _ hlength
      Nat.zero_lt_one

/-- Places are counted in bytes, and a character may have several. -/
example : (Context.mk "self = 'é'\nname = 'ünï'" []).place "ünï" = some ⟨20, 5⟩ := by decide

end Context

end Manifest

end Buildwright
