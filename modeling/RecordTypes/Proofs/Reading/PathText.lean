import Mathlib.Data.List.Basic
import RecordTypes.Proofs.Reading.Path
import RecordTypes.Reading.Issue

/-! Texts of paths, told from the places that are kept in them. Each place begins with a mark and
holds no other, so a path tells its places. -/

namespace RecordTypes

def Place.isTag : Place → Bool
  | .tag _ => true
  | _ => false

def toldPath (root : String) (places : Location) : String :=
  let path := places.foldl extendPath root
  if path.isEmpty then "<root>" else path

abbrev withoutTags (location : Location) : Location := location.filter fun place => !place.isTag

/-- The path that leaves out the tags of a location and nothing else. -/
def untaggedPath (root : String) (location : Location) : String :=
  toldPath root (withoutTags location)

/-- The places that are not taken for the `type` of the object they are looked up in. -/
def keptPlaces (raw : Json) : Location → Location
  | [] => []
  | place :: rest =>
    if place.isTypeOf raw then keptPlaces raw rest
    else place :: keptPlaces ((raw.child? place <|> raw.childFromEnd? place).getD .null) rest

theorem pathFrom_eq_foldl (path : String) (raw : Json) (location : Location) :
    pathFrom path raw location = (keptPlaces raw location).foldl extendPath path := by
  induction location generalizing path raw with
  | nil => rfl
  | cons place rest ih =>
    rw [pathFrom, keptPlaces]
    by_cases htype : place.isTypeOf raw = true
    · rw [if_pos htype, if_pos htype, ih]
    · rw [if_neg htype, if_neg htype, ih, List.foldl_cons]

theorem pathOf_eq_toldPath (root : String) (raw : Json) (location : Location) :
    pathOf root raw location = toldPath root (keptPlaces raw location) := by
  simp only [pathOf, toldPath, pathFrom_eq_foldl]

theorem keptPlaces_sublist (raw : Json) (location : Location) :
    (keptPlaces raw location).Sublist location := by
  induction location generalizing raw with
  | nil => exact .refl []
  | cons place rest ih =>
    rw [keptPlaces]
    split
    · exact (ih raw).cons place
    · exact (ih _).cons_cons place

/-! ## Texts that tell their places -/

def isPathMark (c : Char) : Bool := c == '.' || c == '['

/-- The text begins with a mark, after which there are no more. -/
def Place.IsMarked (place : Place) : Prop :=
  ∃ mark text, place.text.toList = mark :: text ∧ isPathMark mark = true ∧
    ∀ c ∈ text, isPathMark c = false

def placesText (places : Location) : List Char := places.flatMap fun place => place.text.toList

theorem placesText_cons (place : Place) (rest : Location) :
    placesText (place :: rest) = place.text.toList ++ placesText rest := rfl

theorem foldl_extendPath {root : String} (h : root.isEmpty = false) (places : Location) :
    (places.foldl extendPath root).toList = root.toList ++ placesText places := by
  induction places generalizing root with
  | nil => simp [placesText]
  | cons place rest ih =>
    rw [List.foldl_cons, extendPath_eq_append h, ih (isEmpty_append_eq_false h _), placesText_cons,
      String.toList_append, List.append_assoc]

theorem toldPath_eq_foldl {root : String} (h : root.isEmpty = false) (places : Location) :
    toldPath root places = places.foldl extendPath root := by
  have hpath : (places.foldl extendPath root).isEmpty = false := by
    rw [Bool.eq_false_iff] at h ⊢
    intro hempty
    have htext := foldl_extendPath (Bool.eq_false_iff.mpr h) places
    rw [String.isEmpty_iff.mp hempty, String.toList_empty] at htext
    have hroot := (List.append_eq_nil_iff.mp htext.symm).1
    exact h (String.isEmpty_iff.mpr (String.toList_eq_nil_iff.mp hroot))
  simp only [toldPath, hpath, Bool.false_eq_true, if_false]

theorem head?_placesText {places : Location} (h : ∀ place ∈ places, place.IsMarked) :
    ∀ c ∈ (placesText places).head?, isPathMark c = true := by
  cases places with
  | nil => nofun
  | cons place rest =>
    obtain ⟨mark, text, htext, hmark, -⟩ := h place List.mem_cons_self
    intro c hc
    rw [placesText, List.flatMap_cons, htext, List.cons_append, List.head?_cons] at hc
    cases hc
    exact hmark

theorem takeWhile_append_placesText {text : List Char} (htext : ∀ c ∈ text, isPathMark c = false)
    {places : Location} (h : ∀ place ∈ places, place.IsMarked) :
    (text ++ placesText places).takeWhile (fun c => !isPathMark c) = text := by
  have hinside : ∀ c ∈ text, (!isPathMark c) = true := by
    intro c hc
    rw [htext c hc]
    rfl
  rw [List.takeWhile_append_of_pos hinside]
  have hstop : (placesText places).takeWhile (fun c => !isPathMark c) = [] := by
    have hhead := head?_placesText h
    cases hplaces : placesText places with
    | nil => rfl
    | cons c rest =>
      rw [hplaces] at hhead
      simp [hhead c rfl]
  rw [hstop, List.append_nil]

theorem map_text_eq_of_placesText {xs ys : Location} (hxs : ∀ place ∈ xs, place.IsMarked)
    (hys : ∀ place ∈ ys, place.IsMarked) (h : placesText xs = placesText ys) :
    xs.map Place.text = ys.map Place.text := by
  induction xs generalizing ys with
  | nil =>
    cases ys with
    | nil => rfl
    | cons y ys =>
      obtain ⟨mark, text, htext, -, -⟩ := hys y List.mem_cons_self
      simp [placesText, htext] at h
  | cons x xs ih =>
    obtain ⟨mark, text, htext, -, hx⟩ := hxs x List.mem_cons_self
    cases ys with
    | nil => simp [placesText, htext] at h
    | cons y ys =>
      obtain ⟨mark', text', htext', -, hy⟩ := hys y List.mem_cons_self
      have hxs' := fun place hplace => hxs place (List.mem_cons_of_mem x hplace)
      have hys' := fun place hplace => hys place (List.mem_cons_of_mem y hplace)
      have hcons : mark :: (text ++ placesText xs) = mark' :: (text' ++ placesText ys) := by
        simpa [placesText, htext, htext'] using h
      obtain ⟨rfl, hrest⟩ := List.cons.inj hcons
      -- Both texts go up to the next mark, or to the end if there is none.
      have hsame : text = text' := by
        rw [← takeWhile_append_placesText hx hxs', hrest, takeWhile_append_placesText hy hys']
      subst hsame
      have htexts : x.text = y.text := String.toList_inj.mp (htext.trans htext'.symm)
      rw [List.map_cons, List.map_cons, htexts, ih hxs' hys' (List.append_cancel_left hrest)]

theorem map_text_eq_of_toldPath {root : String} (hroot : root.isEmpty = false)
    {xs ys : Location} (hxs : ∀ place ∈ xs, place.IsMarked) (hys : ∀ place ∈ ys, place.IsMarked)
    (h : toldPath root xs = toldPath root ys) : xs.map Place.text = ys.map Place.text := by
  rw [toldPath_eq_foldl hroot, toldPath_eq_foldl hroot] at h
  have htexts := congrArg String.toList h
  rw [foldl_extendPath hroot, foldl_extendPath hroot] at htexts
  exact map_text_eq_of_placesText hxs hys (List.append_cancel_left htexts)

end RecordTypes
