import Mathlib.Data.List.Basic
import RecordTypes.Service.Fetch

/-! The addresses that metadata is asked for at. Whatever the id of a base is, its tables have
another address than the list of all bases. -/

namespace RecordTypes

theorem splitOnChar_ne_nil (a : Char) (s : List Char) : splitOnChar a s ≠ [] := by
  cases s with
  | nil => exact List.cons_ne_nil _ _
  | cons c rest =>
    rw [splitOnChar]
    split
    · exact List.cons_ne_nil _ _
    · split <;> exact List.cons_ne_nil _ _

theorem splitOnChar_append (a : Char) (s t : List Char) :
    splitOnChar a (s ++ a :: t) = splitOnChar a s ++ splitOnChar a t := by
  induction s with
  | nil => simp [splitOnChar]
  | cons c rest ih =>
    by_cases hc : c = a
    · simp [splitOnChar, hc, ih]
    · cases hrest : splitOnChar a rest with
      | nil => exact absurd hrest (splitOnChar_ne_nil a rest)
      | cons piece pieces => simp [splitOnChar, hc, ih, hrest]

theorem resolvedAfter_append {last : List Char} (hdot : last ≠ ['.']) (hdots : last ≠ ['.', '.'])
    (before steps : List (List Char)) :
    ∃ earlier, resolvedAfter before (steps ++ [last]) = earlier ++ [last] := by
  induction steps generalizing before with
  | nil => exact ⟨before.reverse, by simp [resolvedAfter, hdot, hdots]⟩
  | cons step steps ih =>
    rw [List.cons_append, resolvedAfter]
    split
    · exact ih before
    · split <;> exact ih _

theorem joinWith_append (separator last : List Char) (pieces : List (List Char)) :
    ∃ front, joinWith separator (pieces ++ [last]) = front ++ last := by
  induction pieces with
  | nil => exact ⟨[], by simp [joinWith]⟩
  | cons piece pieces ih =>
    obtain ⟨front, hfront⟩ := ih
    refine ⟨piece ++ separator ++ front, ?_⟩
    cases pieces with
    | nil => simp_all [joinWith, List.intercalate_cons_cons]
    | cons next pieces =>
      simp only [joinWith, List.cons_append] at hfront ⊢
      rw [List.intercalate_cons_cons, hfront]
      simp

def tablesStep : List Char := "tables".toList

theorem resolvedPath_tables (front : List Char) :
    ∃ before, resolvedPath (front ++ '/' :: tablesStep) = before ++ tablesStep := by
  have hsplit : splitOnChar '/' tablesStep = [tablesStep] := by decide
  have hdot : tablesStep ≠ ['.'] := by decide
  have hdots : tablesStep ≠ ['.', '.'] := by decide
  obtain ⟨earlier, hearlier⟩ := resolvedAfter_append hdot hdots [] (splitOnChar '/' front)
  rw [resolvedPath, splitOnChar_append, hsplit, hearlier]
  exact joinWith_append ['/'] tablesStep earlier

theorem percentEncoded_tables (before : List Char) :
    percentEncoded reservedInPath (before ++ tablesStep) =
      percentEncoded reservedInPath before ++ tablesStep := by
  have htables : percentEncoded reservedInPath tablesStep = tablesStep := by decide
  rw [percentEncoded, List.flatMap_append]
  exact congrArg (percentEncoded reservedInPath before ++ ·) htables

theorem mem_canonicalQuery {c : Char} (h : endsPath c = true) (rest : List Char) :
    c ∈ canonicalQuery (c :: rest) := by
  simp only [endsPath, Bool.or_eq_true, beq_iff_eq] at h
  rcases h with rfl | rfl
  · exact List.mem_cons_self
  · exact List.mem_cons_self

theorem canonicalResource_tables_ne (baseId : String) :
    canonicalResource (tablesResource baseId).toList ≠ basesResource.toList := by
  intro h
  have hresource : (tablesResource baseId).toList =
      (basesResource ++ "/" ++ baseId).toList ++ '/' :: tablesStep := by
    rw [tablesResource, String.toList_append]
    rfl
  rw [canonicalResource] at h
  cases hquery : (tablesResource baseId).toList.dropWhile fun c => !endsPath c with
  | nil =>
    -- All of it is a path, whose last step is not that of the other resource.
    have hpath : (tablesResource baseId).toList.takeWhile (fun c => !endsPath c) =
        (tablesResource baseId).toList := by
      have hparts := List.takeWhile_append_dropWhile (p := fun c => !endsPath c)
        (l := (tablesResource baseId).toList)
      rwa [hquery, List.append_nil] at hparts
    rw [hpath, hquery, hresource] at h
    obtain ⟨before, hbefore⟩ := resolvedPath_tables (basesResource ++ "/" ++ baseId).toList
    rw [hbefore, percentEncoded_tables] at h
    have hsuffix : tablesStep <:+ basesResource.toList :=
      ⟨percentEncoded reservedInPath before, by simpa [canonicalQuery, canonicalFragment] using h⟩
    exact absurd hsuffix (by decide)
  | cons c rest =>
    -- The sign that begins a query or a fragment stays, and the other resource has none.
    have hc : endsPath c = true := by
      have hhead := List.head?_dropWhile_not (fun c => !endsPath c) (tablesResource baseId).toList
      simpa [hquery] using hhead
    have hmem : c ∈ basesResource.toList := by
      rw [← h, hquery]
      exact List.mem_append_right _ (mem_canonicalQuery hc rest)
    have hnone : basesResource.toList.any endsPath = false := by decide
    have hany : basesResource.toList.any endsPath = true := List.any_eq_true.mpr ⟨c, hmem, hc⟩
    rw [hnone] at hany
    cases hany

def basesUrl : String := "https://api.airtable.com/v0/meta/bases"

theorem canonicalUrl_bases : canonicalUrl basesResource = .ok basesUrl := by
  rfl

theorem canonicalUrl_eq_ok {resource url : String} (h : canonicalUrl resource = .ok url) :
    url = serviceHost ++ String.ofList (canonicalResource resource.toList) := by
  unfold canonicalUrl at h
  dsimp only at h
  split at h
  · cases h
  split at h
  · cases h
  · cases h
    rfl

theorem tablesUrl_ne {baseId url : String} (h : canonicalUrl (tablesResource baseId) = .ok url) :
    url ≠ basesUrl := by
  intro hurl
  rw [canonicalUrl_eq_ok h] at hurl
  have hlist := congrArg String.toList hurl
  have hbases : basesUrl.toList = serviceHost.toList ++ basesResource.toList := by decide
  rw [hbases, String.toList_append, String.toList_ofList] at hlist
  exact canonicalResource_tables_ne baseId (List.append_cancel_left hlist)

end RecordTypes
