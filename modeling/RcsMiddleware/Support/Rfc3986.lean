import Mathlib.Data.List.TakeWhile

/-!
# Support — Rfc3986

The components of a URI reference, as the regular expression of RFC 3986 splits it:
`^(([^:/?#]+):)?(//([^/?#]*))?([^?#]*)(\?([^#]*))?(#(.*))?`.

* `split`: the five components.
* `split_eq_iff`: a scheme, an authority and a path that begins with a slash are found again exactly
  when no delimiter stands in them.
-/

namespace Support.Rfc3986

/-- The five components; a scheme, authority, query or fragment may be absent. -/
structure Components where
  scheme : Option String
  authority : Option String
  path : String
  query : Option String
  fragment : Option String
  deriving DecidableEq, Repr

/-- The characters that end a scheme. -/
def endsScheme (c : Char) : Bool := c == ':' || c == '/' || c == '?' || c == '#'

/-- The characters that end an authority. -/
def endsAuthority (c : Char) : Bool := c == '/' || c == '?' || c == '#'

/-- The characters that end a path. -/
def endsPath (c : Char) : Bool := c == '?' || c == '#'

/-- `(([^:/?#]+):)?`, and the rest. -/
def splitScheme (cs : List Char) : Option String × List Char :=
  match cs.takeWhile fun c => !endsScheme c, cs.dropWhile fun c => !endsScheme c with
  | c :: scheme, ':' :: rest => (some (.ofList (c :: scheme)), rest)
  | _, _ => (none, cs)

/-- `(//([^/?#]*))?`, and the rest. -/
def splitAuthority (cs : List Char) : Option String × List Char :=
  match cs with
  | '/' :: '/' :: rest =>
      (some (.ofList (rest.takeWhile fun c => !endsAuthority c)),
        rest.dropWhile fun c => !endsAuthority c)
  | _ => (none, cs)

/-- `(\?([^#]*))?`, and the rest. -/
def splitQuery (cs : List Char) : Option String × List Char :=
  match cs with
  | '?' :: rest => (some (.ofList (rest.takeWhile (· != '#'))), rest.dropWhile (· != '#'))
  | _ => (none, cs)

/-- `(#(.*))?`. -/
def fragmentOf : List Char → Option String
  | '#' :: rest => some (.ofList rest)
  | _ => none

/-- The components of the part behind the authority. -/
def splitPath (scheme authority : Option String) (cs : List Char) : Components where
  scheme := scheme
  authority := authority
  path := .ofList (cs.takeWhile fun c => !endsPath c)
  query := (splitQuery (cs.dropWhile fun c => !endsPath c)).1
  fragment := fragmentOf (splitQuery (cs.dropWhile fun c => !endsPath c)).2

def split (uri : String) : Components :=
  let (scheme, rest) := splitScheme uri.toList
  let (authority, rest) := splitAuthority rest
  splitPath scheme authority rest

example : split "http://h:80/a//b?c=/d#e?" =
    ⟨some "http", some "h:80", "/a//b", some "c=/d", some "e?"⟩ := by decide

/-! ### A URI by its parts -/

variable {scheme authority path : String} {cs : List Char}

theorem splitScheme_of_plain (hscheme : scheme ≠ "")
    (hplain : ∀ c ∈ scheme.toList, endsScheme c = false) (rest : List Char) :
    splitScheme (scheme.toList ++ ':' :: rest) = (some scheme, rest) := by
  have hkeep : ∀ c ∈ scheme.toList, (!endsScheme c) = true := by
    intro c hc
    rw [hplain c hc]
    rfl
  have htake : (':' :: rest).takeWhile (fun c => !endsScheme c) = [] := rfl
  have hdrop : (':' :: rest).dropWhile (fun c => !endsScheme c) = ':' :: rest := rfl
  rw [splitScheme, List.takeWhile_append_of_pos hkeep, List.dropWhile_append_of_pos hkeep,
    htake, hdrop, List.append_nil]
  cases hcs : scheme.toList with
  | nil => exact absurd (String.toList_eq_nil_iff.mp hcs) hscheme
  | cons c cs =>
      have hofList : String.ofList (c :: cs) = scheme := by rw [← hcs, String.ofList_toList]
      rw [← hofList]
      rfl

/-- The rest of a URI behind its scheme. -/
theorem split_of_scheme (hscheme : scheme ≠ "")
    (hplain : ∀ c ∈ scheme.toList, endsScheme c = false) :
    split (scheme ++ "://" ++ authority ++ path) =
      splitPath (some scheme)
        (some (.ofList ((authority.toList ++ path.toList).takeWhile fun c => !endsAuthority c)))
        ((authority.toList ++ path.toList).dropWhile fun c => !endsAuthority c) := by
  have huri : (scheme ++ "://" ++ authority ++ path).toList =
      scheme.toList ++ ':' :: '/' :: '/' :: (authority.toList ++ path.toList) := by
    simp
  rw [split, huri, splitScheme_of_plain hscheme hplain]
  rfl

/-- A path without delimiters has nothing behind it. -/
theorem splitPath_of_plain (hpath : ∀ c ∈ path.toList, endsPath c = false)
    (scheme authority : Option String) :
    splitPath scheme authority path.toList = ⟨scheme, authority, path, none, none⟩ := by
  have hkeep : ∀ c ∈ path.toList, (!endsPath c) = true := by
    intro c hc
    rw [hpath c hc]
    rfl
  rw [splitPath, List.takeWhile_eq_self_iff.mpr hkeep, List.dropWhile_eq_nil_iff.mpr hkeep,
    String.ofList_toList]
  rfl

/-- **A URI by its parts**: a scheme without delimiters, an authority and a path that begins with a
slash are its components exactly when no delimiter stands in the authority or the path. -/
theorem split_eq_iff (hscheme : scheme ≠ "")
    (hplain : ∀ c ∈ scheme.toList, endsScheme c = false) (hslash : path.toList = '/' :: cs) :
    split (scheme ++ "://" ++ authority ++ path) =
        ⟨some scheme, some authority, path, none, none⟩ ↔
      (∀ c ∈ authority.toList, endsAuthority c = false) ∧
        ∀ c ∈ path.toList, endsPath c = false := by
  rw [split_of_scheme hscheme hplain]
  constructor
  · intro h
    have hauthority := Option.some.inj (congrArg Components.authority h)
    have hpath := congrArg Components.path h
    dsimp only [splitPath] at hauthority hpath
    constructor
    · intro c hc
      rw [← hauthority, String.toList_ofList] at hc
      simpa using List.mem_takeWhile_imp hc
    · intro c hc
      rw [← hpath, String.toList_ofList] at hc
      simpa using List.mem_takeWhile_imp hc
  · rintro ⟨hauthority, hpath⟩
    have hkeep : ∀ c ∈ authority.toList, (!endsAuthority c) = true := by
      intro c hc
      rw [hauthority c hc]
      rfl
    have htake : ('/' :: cs).takeWhile (fun c => !endsAuthority c) = [] := rfl
    have hdrop : ('/' :: cs).dropWhile (fun c => !endsAuthority c) = '/' :: cs := rfl
    rw [List.takeWhile_append_of_pos hkeep, List.dropWhile_append_of_pos hkeep, hslash,
      htake, hdrop, List.append_nil, String.ofList_toList, ← hslash, splitPath_of_plain hpath]

end Support.Rfc3986
