import MyBuild.Library.Url

/-!
# Where to go after the login

The address to return to comes with the query, that is from anybody.  Only a path within the
application is let through, and it is let through in the form in which the browser reads it.
-/

namespace MyBuild

/-- A parameter of the query: absent, given once, or given several times. -/
inductive QueryParameter where
  | absent
  | single (value : String)
  | several (values : List String)

def isStrippedAnywhere (char : Char) : Bool := char == '\t' || char == '\n' || char == '\r'

def edgeCharMaxCode : ℕ := 0x20

def trimEdges (value : List Char) : List Char :=
  Pieces.trim (fun char => char.toNat ≤ edgeCharMaxCode) value

def QueryParameter.raw : QueryParameter → Option String
  | .absent => none
  | .single value => some value
  | .several values => values.head?

/-- A slash, and after it neither another slash nor a backslash. -/
def isRelativePath : List Char → Bool
  | '/' :: second :: _ => second != '/' && second != '\\'
  | ['/'] => true
  | _ => false

def safeNextPath (value : QueryParameter) (fallback : String) : String :=
  match value.raw with
  | none => fallback
  | some raw =>
      if raw.toList.isEmpty then fallback
      else
        let path := trimEdges (raw.toList.filter (!isStrippedAnywhere ·))
        if isRelativePath path then String.ofList path else fallback

/-- Taken by any page of the web, the path leads to the origin of that page. -/
def StaysOnOrigin (path : String) : Prop :=
  ∀ (Host : Type) (parseHost : List Char → Option Host) (page : Url.Address Host),
    page.scheme = "http".toList ∨ page.scheme = "https".toList →
      ∃ resolved, Url.resolve parseHost page path.toList = some (.hosted resolved) ∧
        resolved.origin = page.origin

/-- A path that passes: nothing of it is taken out, and it begins with one slash. -/
structure IsSafePath (path : String) : Prop where
  trimmed : trimEdges path.toList = path.toList
  counted : ∀ char ∈ path.toList, isStrippedAnywhere char = false
  relative : isRelativePath path.toList = true

variable {value : QueryParameter} {path fallback : String}

theorem isSafePath_root : IsSafePath "/" := by
  refine ⟨by decide +kernel, ?_, by decide +kernel⟩
  exact fun char mem => by simp_all [isStrippedAnywhere]

theorem isSafePath_safeNextPath (safe : IsSafePath fallback) :
    IsSafePath (safeNextPath value fallback) := by
  simp only [safeNextPath]
  split
  · exact safe
  · rename_i raw _
    split
    · exact safe
    · split
      case isFalse => exact safe
      case isTrue relative =>
        constructor
        · rw [String.toList_ofList]
          exact Pieces.trim_trim
        · rw [String.toList_ofList]
          intro char mem
          have kept := Pieces.mem_of_mem_trim mem
          simpa using (List.mem_filter.mp kept).2
        · rw [String.toList_ofList]
          exact relative

theorem IsSafePath.safeNextPath_eq (safe : IsSafePath path) :
    safeNextPath (.single path) fallback = path := by
  have kept : path.toList.filter (!isStrippedAnywhere ·) = path.toList :=
    List.filter_eq_self.mpr fun char mem => by simp [safe.counted char mem]
  have some : path.toList.isEmpty = false := by
    cases chars : path.toList with
    | nil =>
        have relative := safe.relative
        rw [chars] at relative
        cases relative
    | cons first rest => rfl
  simp only [safeNextPath, QueryParameter.raw, some, Bool.false_eq_true, if_false, kept,
    safe.trimmed, safe.relative, if_true, String.ofList_toList]

theorem IsSafePath.staysOnOrigin (safe : IsSafePath path) : StaysOnOrigin path := by
  intro Host parseHost page _
  have counted : Url.preprocess path.toList = path.toList := by
    have trimmed : Pieces.trim Url.isControlOrSpace path.toList = path.toList := safe.trimmed
    rw [Url.preprocess, trimmed]
    exact List.filter_eq_self.mpr fun char mem => by
      have stays := safe.counted char mem
      simp only [isStrippedAnywhere] at stays
      simp only [Url.isTabOrNewline, stays, Bool.not_false]
  have relative := safe.relative
  cases chars : path.toList with
  | nil =>
      rw [chars] at relative
      cases relative
  | cons first rest =>
      rw [chars] at relative counted
      have isSlash : first = '/' := by
        by_contra differ
        simp [isRelativePath, differ] at relative
      subst isSlash
      apply Url.origin_resolve_of_slash counted
      intro second isSecond
      cases rest with
      | nil => cases isSecond
      | cons next after =>
          simp only [List.head?_cons, Option.mem_some_iff] at isSecond
          subst isSecond
          simpa [isRelativePath, Url.isSlash] using relative

/-- No open redirect: the path stays on the origin of whichever page follows it, and passing it
through once more changes nothing. -/
theorem safeNextPath_safe (value : String) :
    StaysOnOrigin (safeNextPath (.single value) "/") ∧
      safeNextPath (.single (safeNextPath (.single value) "/")) "/" =
        safeNextPath (.single value) "/" :=
  have safe : IsSafePath (safeNextPath (.single value) "/") :=
    isSafePath_safeNextPath isSafePath_root
  ⟨safe.staysOnOrigin, safe.safeNextPath_eq⟩

example : safeNextPath (.single "/\t/host") "/" = "/" := by decide +kernel

end MyBuild
