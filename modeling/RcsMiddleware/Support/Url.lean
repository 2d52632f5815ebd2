import Mathlib.Data.List.DropRight
import RcsMiddleware.Support.Json

/-!
# Support — Url

`urllib.parse.urlparse` on a URL that starts with `http://` or `https://`, as far as its path
and its exceptions go.  Every exception it raises is a `ValueError`.

* `isIPv4`, `isIPv6`: which texts `ipaddress` accepts.
* `netlocError?`: why the part between `//` and the path is refused.
* `path`: `urlparse(url).path`.
-/

namespace Support.Url

/-! ### Addresses -/

/-- `_parse_octet` succeeds. -/
def isOctet (o : List Char) : Bool :=
  1 ≤ o.length && o.length ≤ 3 && o.all Char.isDigit && (o.head? != some '0' || o.length == 1) &&
    o.foldl (fun n c => 10 * n + (c.toNat - '0'.toNat)) 0 ≤ 255

/-- `IPv4Address(s)` succeeds. -/
def isIPv4 (s : List Char) : Bool :=
  (s.splitOn '.').length == 4 && (s.splitOn '.').all isOctet

def isHexDigit (c : Char) : Bool :=
  c.isDigit || ('a' ≤ c && c ≤ 'f') || ('A' ≤ c && c ≤ 'F')

/-- `_parse_hextet` succeeds. -/
def isHextet (h : List Char) : Bool := 1 ≤ h.length && h.length ≤ 4 && h.all isHexDigit

/-- The two sides of a `::`; an empty part may only stand next to it. -/
def isRun (hi lo : List (List Char)) : Bool :=
  let hi := if hi = [[]] then [] else hi
  let lo := if lo = [[]] then [] else lo
  hi.length + lo.length ≤ 7 && hi.all isHextet && lo.all isHextet

/-- The parts between the colons make an IPv6 address. -/
def isHextets (parts : List (List Char)) : Bool :=
  3 ≤ parts.length && parts.length ≤ 9 &&
    match ((parts.drop 1).dropLast).findIdxs (· == []) with
    | [] => parts.length == 8 && parts.all isHextet
    | [i] => isRun (parts.take (i + 1)) (parts.drop (i + 2))
    | _ => false

/-- `IPv6Address(s)` succeeds. -/
def isIPv6 (s : List Char) : Bool :=
  let addr := s.takeWhile (· != '%')
  let scope := s.dropWhile (· != '%')
  let parts := addr.splitOn ':'
  !s.contains '/' && (scope == [] || (2 ≤ scope.length && !(scope.drop 1).contains '%')) &&
    match parts.getLast? with
    | some last =>
        -- A dotted suffix counts as two hextets.
        if last.contains '.' then
          3 ≤ parts.length && isIPv4 last && isHextets (parts.dropLast ++ [['0'], ['0']])
        else isHextets parts
    | none => false

/-! ### The authority -/

/-- The characters whose NFKC normalization contains one of `/?#@:`. -/
def nfkcDelimiters : List Nat :=
  [0x2047, 0x2048, 0x2049, 0x2100, 0x2101, 0x2105, 0x2106, 0x2a74, 0xfe13, 0xfe16, 0xfe55, 0xfe56,
    0xfe5f, 0xfe6b, 0xff03, 0xff0f, 0xff1a, 0xff1f, 0xff20]

/-- The text between the first `[` and the next `]`. -/
def bracketedHost (netloc : List Char) : List Char :=
  ((netloc.dropWhile (· != '[')).drop 1).takeWhile (· != ']')

/-- `_check_bracketed_host`. -/
def bracketedHostError? (host : List Char) : Option String :=
  if host.head? = some 'v' then
    let version := (host.drop 1).takeWhile isHexDigit
    let rest := (host.drop 1).dropWhile isHexDigit
    if 1 ≤ version.length && rest.head? == some '.' && 2 ≤ rest.length then none
    else some "IPvFuture address is invalid"
  else if isIPv4 host then some "An IPv4 address cannot be in brackets"
  else if isIPv6 host then none
  else some (Json.reprStr (.ofList host) ++ " does not appear to be an IPv4 or IPv6 address")

/-- The checks of `urlsplit` on the authority: the message of the exception, if one fails. -/
def netlocError? (netloc : List Char) : Option String :=
  if netloc.contains '[' != netloc.contains ']' then some "Invalid IPv6 URL"
  else
    let bracketed :=
      if netloc.contains '[' then bracketedHostError? (bracketedHost netloc) else none
    bracketed <|>
      if netloc.any fun c => nfkcDelimiters.contains c.toNat then
        some ("netloc '" ++ .ofList netloc ++
          "' contains invalid characters under NFKC normalization")
      else none

/-! ### The path -/

/-- `_splitparams(path)[0]`: the last segment loses what follows its first semicolon. -/
def dropParams (path : List Char) : List Char :=
  path.rdropWhile (· != '/') ++ (path.rtakeWhile (· != '/')).takeWhile (· != ';')

/-- `urlparse(url).path`, or the message of its `ValueError`, for a URL that starts with
`http://` or `https://`. -/
def path (url : String) : Except String String :=
  let cs := url.toList.filter fun c => !(['\t', '\r', '\n'].contains c)
  let rest := (cs.dropWhile (· != ':')).drop 3
  let netloc := rest.takeWhile fun c => !(['/', '?', '#'].contains c)
  let tail := rest.dropWhile fun c => !(['/', '?', '#'].contains c)
  match netlocError? netloc with
  | some message => .error message
  | none => .ok (.ofList (dropParams ((tail.takeWhile (· != '#')).takeWhile (· != '?'))))

example : path "http://[::1]:80/rcs;a/x;b?c=/d#e" = .ok "/rcs;a/x" := by decide

theorem mem_of_mem_dropParams {c : Char} {cs : List Char} (h : c ∈ dropParams cs) : c ∈ cs := by
  rcases List.mem_append.mp h with h | h
  · exact (List.rdropWhile_prefix _ _).subset h
  · exact (List.rtakeWhile_suffix _ _).subset ((List.takeWhile_prefix _).subset h)

theorem dropParams_slash (cs : List Char) : ∃ cs', dropParams ('/' :: cs) = '/' :: cs' := by
  rw [dropParams, Text.rdropWhile_cons (by decide)]
  exact ⟨_, rfl⟩

/-- The path of a URL is empty or begins with a slash. -/
theorem path_head {url p : String} (h : path url = .ok p) :
    p = "" ∨ ∃ cs, p.toList = '/' :: cs := by
  rw [path] at h
  split at h
  · cases h
  · obtain rfl := Except.ok.inj h
    rw [String.toList_ofList]
    generalize hrest : ((url.toList.filter fun c => !(['\t', '\r', '\n'].contains c)).dropWhile
      (· != ':')).drop 3 = rest
    cases htail : rest.dropWhile (fun c => !(['/', '?', '#'].contains c)) with
    | nil => exact .inl rfl
    | cons c cs =>
        have hc := List.head_dropWhile_not (fun c => !(['/', '?', '#'].contains c)) (l := rest)
          (by rw [htail]; exact List.cons_ne_nil _ _)
        simp only [htail, List.head_cons, Bool.not_eq_false', List.contains_iff_mem, List.mem_cons,
          List.not_mem_nil, or_false] at hc
        rcases hc with rfl | rfl | rfl
        · obtain ⟨cs', hcs'⟩ := dropParams_slash ((cs.takeWhile (· != '#')).takeWhile (· != '?'))
          exact .inr ⟨cs', hcs'⟩
        · exact .inl rfl
        · exact .inl rfl

/-- The path of a URL has no query. -/
theorem not_mem_path {url p : String} (h : path url = .ok p) : '?' ∉ p.toList := by
  intro hmem
  rw [path] at h
  split at h
  · cases h
  · obtain rfl := Except.ok.inj h
    rw [String.toList_ofList] at hmem
    have hq := List.mem_takeWhile_imp (mem_of_mem_dropParams hmem)
    exact absurd hq (by decide)

/-! ### A URL by its parts -/

/-- The characters `urlparse` removes from a URL. -/
def isRemoved (c : Char) : Bool := ['\t', '\r', '\n'].contains c

/-- A URL without the characters `urlparse` removes, from the authority on. -/
def afterScheme (url : List Char) : List Char :=
  ((url.filter fun c => !isRemoved c).dropWhile (· != ':')).drop 3

/-- The path `urlparse` finds in what follows the authority. -/
def pathOf (tail : List Char) : List Char :=
  dropParams ((tail.takeWhile (· != '#')).takeWhile (· != '?'))

theorem pathOf_slash (cs : List Char) : ∃ cs', pathOf ('/' :: cs) = '/' :: cs' :=
  dropParams_slash _

/-- The characters that end an authority. -/
def isDelimiter (c : Char) : Bool := ['/', '?', '#'].contains c

theorem path_eq (url : String) : path url =
    match netlocError? ((afterScheme url.toList).takeWhile fun c => !isDelimiter c) with
    | some message => .error message
    | none => .ok (.ofList (pathOf ((afterScheme url.toList).dropWhile fun c => !isDelimiter c))) :=
  rfl

/-- **A URL by its parts**: the authority has no delimiter, and what follows it begins with a
slash. -/
theorem path_of_parts {scheme authority : List Char} (tail : List Char)
    (hscheme : scheme = "http".toList ∨ scheme = "https".toList)
    (hauthority : ∀ c ∈ authority, isDelimiter c = false ∧ isRemoved c = false) :
    path (.ofList (scheme ++ "://".toList ++ authority ++ '/' :: tail)) =
      match netlocError? authority with
      | some message => .error message
      | none => .ok (.ofList (pathOf ('/' :: tail.filter fun c => !isRemoved c))) := by
  have hkeep : authority.filter (fun c => !isRemoved c) = authority := by
    rw [List.filter_eq_self]
    intro c hc
    rw [(hauthority c hc).2]
    rfl
  have hrest : afterScheme (scheme ++ "://".toList ++ authority ++ '/' :: tail) =
      authority ++ '/' :: tail.filter fun c => !isRemoved c := by
    rw [afterScheme, List.filter_append, List.filter_append, hkeep]
    rcases hscheme with rfl | rfl <;> rfl
  have hplain : ∀ c ∈ authority, (!isDelimiter c) = true := by
    intro c hc
    rw [(hauthority c hc).1]
    rfl
  have htake : ∀ rest, (authority ++ '/' :: rest).takeWhile (fun c => !isDelimiter c) =
      authority := by
    intro rest
    rw [List.takeWhile_append_of_pos hplain]
    exact List.append_nil authority
  have hdrop : ∀ rest, (authority ++ '/' :: rest).dropWhile (fun c => !isDelimiter c) =
      '/' :: rest := by
    intro rest
    rw [List.dropWhile_append_of_pos hplain]
    rfl
  rw [path_eq, String.toList_ofList, hrest, htake, hdrop]

/-- The characters after the last slash. -/
def lastSegment (path : List Char) : List Char := path.rtakeWhile (· != '/')

theorem dropParams_eq_self_iff {path : List Char} :
    dropParams path = path ↔ ';' ∉ lastSegment path := by
  have hsplit : path.rdropWhile (· != '/') ++ lastSegment path = path :=
    List.rdropWhile_append_rtakeWhile
  rw [dropParams]
  constructor
  · intro h hmem
    rw [← lastSegment] at h
    have hseg := List.append_cancel_left (h.trans hsplit.symm)
    rw [← hseg] at hmem
    exact absurd (List.mem_takeWhile_imp hmem) (by simp)
  · intro hmem
    rw [← lastSegment, List.takeWhile_eq_self_iff.mpr, hsplit]
    intro c hc
    simp only [bne_iff_ne]
    rintro rfl
    exact hmem hc

/-- The path has no fragment, no character that is removed, and no parameters in its last
segment. -/
def KeepsPath (path : List Char) : Prop :=
  (∀ c ∈ path, c ≠ '#' ∧ isRemoved c = false) ∧ ';' ∉ lastSegment path

instance (path : List Char) : Decidable (KeepsPath path) :=
  @instDecidableAnd _ _ (List.decidableBAll _ path) inferInstance

/-- `urlparse` finds the characters before the query exactly when they are kept. -/
theorem pathOf_filter_eq_iff (tail : List Char) :
    pathOf (tail.filter fun c => !isRemoved c) = tail.takeWhile (· != '?') ↔
      KeepsPath (tail.takeWhile (· != '?')) := by
  obtain ⟨q, hq⟩ : ∃ q, q = tail.takeWhile (· != '?') := ⟨_, rfl⟩
  obtain ⟨rest, hrest⟩ : ∃ rest, rest = tail.dropWhile (· != '?') := ⟨_, rfl⟩
  have hsplit : tail = q ++ rest := by rw [hq, hrest, List.takeWhile_append_dropWhile]
  have hmark : ∀ c ∈ q, c ≠ '?' := by
    intro c hc
    rw [hq] at hc
    simpa using List.mem_takeWhile_imp hc
  -- Where the path is kept, the two cuts find it again.
  have hcut : (∀ c ∈ q, c ≠ '#' ∧ isRemoved c = false) →
      ((tail.filter fun c => !isRemoved c).takeWhile (· != '#')).takeWhile (· != '?') = q := by
    intro hkeep
    have hfilter : q.filter (fun c => !isRemoved c) = q := by
      rw [List.filter_eq_self]
      intro c hc
      rw [(hkeep c hc).2]
      rfl
    have hboth : ∀ c ∈ q, decide ((c != '?') = true ∧ (c != '#') = true) = true := by
      intro c hc
      simp [hmark c hc, (hkeep c hc).1]
    rw [hsplit, List.filter_append, hfilter, List.takeWhile_takeWhile,
      List.takeWhile_append_of_pos hboth]
    cases hr : rest with
    | nil => rw [List.filter_nil, List.takeWhile_nil, List.append_nil]
    | cons d rest' =>
        have hd := List.head_dropWhile_not (· != '?') (l := tail)
          (by rw [← hrest, hr]; exact List.cons_ne_nil _ _)
        simp only [← hrest, hr, List.head_cons, bne_eq_false_iff_eq] at hd
        subst hd
        exact List.append_nil q
  rw [← hq, pathOf]
  constructor
  · intro h
    have hkeep : ∀ c ∈ q, c ≠ '#' ∧ isRemoved c = false := by
      intro c hc
      rw [← h] at hc
      have hmem := (List.takeWhile_prefix _).subset (mem_of_mem_dropParams hc)
      have hfiltered := List.of_mem_filter ((List.takeWhile_prefix _).subset hmem)
      exact ⟨by simpa using List.mem_takeWhile_imp hmem, by simpa using hfiltered⟩
    rw [hcut hkeep] at h
    exact ⟨hkeep, dropParams_eq_self_iff.mp h⟩
  · rintro ⟨hkeep, hseg⟩
    rw [hcut hkeep]
    exact dropParams_eq_self_iff.mpr hseg

end Support.Url
