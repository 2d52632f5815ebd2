import RcsMiddleware.Submit.Paths

/-!
# Submit — Spellings

The spellings of one target.  `normalize_rcs_path` is to give one path for all of them: a path that
it has normalized stays as it is, and a URL gives the path that is spelled after its host.  It
strips white space before it cuts the query, and cuts a URL by the rules of `urlparse`.

* `normalize_fixed_iff`: a result is normalized again to itself exactly when it does not end in
  white space.
* `normalize_url_iff`: a URL and the path after its host are normalized alike.
* `spellings_agree_iff`: both, in terms of what is given.
-/

namespace Rcs

open Support Support.Text

/-- The last character is white space. -/
def EndsInSpace (s : String) : Prop := ∃ c, s.toList.getLast? = some c ∧ isSpace c = true

/-- A text without URL delimiters, brackets and white space. -/
def PlainHost (host : String) : Prop :=
  ∀ c ∈ host.toList, c ∉ ['/', '?', '#', '[', ']'] ∧ isSpace c = false

/-- No character of the host has a compatibility form with a delimiter in it. -/
def KeepsAuthority (host : String) : Prop :=
  ∀ c ∈ host.toList, Url.nfkcDelimiters.contains c.toNat = false

instance (host : String) : Decidable (PlainHost host) := List.decidableBAll _ host.toList

instance (host : String) : Decidable (KeepsAuthority host) := List.decidableBAll _ host.toList

/-- The part of the path before its query, without white space at its end. -/
def spelledPath (path : String) : List Char := (strip path).toList.takeWhile (· != '?')

variable {given path host : String}

/-! ### What is normalized already -/

theorem endsInSpace_empty : ¬ EndsInSpace "" := by
  rintro ⟨c, hc, -⟩
  cases hc

/-- A text that begins with a slash is stripped at its end only. -/
theorem strip_of_slash {cs : List Char} (h : path.toList = '/' :: cs) :
    (strip path).toList = path.toList.rdropWhile isSpace := by
  have hslash : ¬ isSpace '/' = true := by decide
  rw [strip, trim, String.toList_ofList, h, List.dropWhile_cons_of_neg hslash]

theorem strip_eq_self_iff {cs : List Char} (h : path.toList = '/' :: cs) :
    strip path = path ↔ ¬ EndsInSpace path := by
  have hne : path.toList ≠ [] := by
    rw [h]
    exact List.cons_ne_nil _ _
  rw [← String.toList_inj, strip_of_slash h, List.rdropWhile_eq_self_iff, EndsInSpace,
    List.getLast?_eq_some_getLast hne]
  constructor
  · rintro hlast ⟨c, hc, hspace⟩
    cases hc
    exact hlast hne hspace
  · intro hno _ hspace
    exact hno ⟨_, rfl, hspace⟩

/-- A text that begins with a slash is no URL: it is stripped, and then cut. -/
theorem normalize_of_slash {cs : List Char} (h : path.toList = '/' :: cs) :
    (strip path).toList = '/' :: cs.rdropWhile isSpace ∧
      normalizeRcsPath path = .ok (before '?' (strip path)) := by
  have hslash : ¬ isSpace '/' = true := by decide
  have hstrip : (strip path).toList = '/' :: cs.rdropWhile isSpace := by
    rw [strip_of_slash h, h, rdropWhile_cons hslash]
  have hne : strip path ≠ "" := by
    intro hempty
    rw [hempty] at hstrip
    cases hstrip
  have hurl : isFullUrl (strip path) = false := by
    rw [isFullUrl, startsWith, startsWith, hstrip]
    rfl
  have hstart : startsWith (strip path) "/" = true := by
    rw [startsWith, hstrip]
    rfl
  refine ⟨hstrip, ?_⟩
  rw [normalizeRcsPath_of_text rfl hurl hne, if_pos hstart]

/-- A result is empty, or begins with a slash and has no query. -/
theorem result_cases (h : normalizeRcsPath given = .ok path) :
    path = "" ∨ (∃ cs, path.toList = '/' :: cs) ∧ '?' ∉ path.toList := by
  have hbefore : ∀ (cs : List Char) {s : String}, s.toList = '/' :: cs →
      (∃ cs', (before '?' s).toList = '/' :: cs') ∧ '?' ∉ (before '?' s).toList := by
    intro cs s hs
    refine ⟨?_, (before_eq_iff.mp rfl).1⟩
    rw [before, String.toList_ofList, hs, List.takeWhile_cons_of_pos (by decide)]
    exact ⟨_, rfl⟩
  by_cases hne : strip given = ""
  · rw [normalizeRcsPath_of_empty hne] at h
    exact .inl (Except.ok.inj h).symm
  · cases hurl : isFullUrl (strip given) with
    | true =>
        rw [normalizeRcsPath_of_url rfl hurl] at h
        cases hp : Url.path (strip given) with
        | error message =>
            rw [hp] at h
            cases h
        | ok p =>
            rw [hp] at h
            obtain rfl := Except.ok.inj h
            by_cases hempty : p = ""
            · rw [if_pos hempty]
              exact .inr (hbefore [] rfl)
            · rw [if_neg hempty]
              obtain hnil | ⟨cs, hcs⟩ := Url.path_head hp
              · exact absurd hnil hempty
              · exact .inr (hbefore cs hcs)
    | false =>
        rw [normalizeRcsPath_of_text rfl hurl hne] at h
        obtain rfl := Except.ok.inj h
        cases hstart : startsWith (strip given) "/" with
        | true =>
            obtain ⟨rest, hrest⟩ := startsWith_iff.mp hstart
            rw [if_pos rfl]
            refine .inr (hbefore rest.toList ?_)
            rw [hrest, String.toList_append]
            rfl
        | false =>
            rw [if_neg Bool.false_ne_true]
            refine .inr (hbefore (strip given).toList ?_)
            rw [String.toList_append]
            rfl

/-- **A result is normalized to itself** exactly when it does not end in white space. -/
theorem normalize_fixed_iff (h : normalizeRcsPath given = .ok path) :
    normalizeRcsPath path = .ok path ↔ ¬ EndsInSpace path := by
  rcases result_cases h with rfl | ⟨⟨cs, hcs⟩, hq⟩
  · exact iff_of_true rfl endsInSpace_empty
  · -- There is no query to cut.
    have hmem : '?' ∉ (strip path).toList := by
      rw [strip_of_slash hcs]
      exact fun hm => hq ((List.rdropWhile_prefix _ _).subset hm)
    have hbefore : before '?' (strip path) = strip path :=
      before_eq_iff.mpr ⟨hmem, "", String.append_empty, .inl rfl⟩
    rw [(normalize_of_slash hcs).2, hbefore, Except.ok.injEq]
    exact strip_eq_self_iff hcs

/-! ### What is asked for -/

theorem endsInSpace_slash_iff {s : String} : EndsInSpace ("/" ++ s) ↔ EndsInSpace s := by
  have hlist : ("/" ++ s).toList = '/' :: s.toList := by
    rw [String.toList_append]
    rfl
  rw [EndsInSpace, EndsInSpace, hlist]
  cases s.toList with
  | nil =>
      constructor
      · rintro ⟨c, hc, hspace⟩
        cases hc
        cases hspace
      · rintro ⟨c, hc, -⟩
        cases hc
  | cons d cs => rw [List.getLast?_cons_cons]

theorem before_slash (s : String) : before '?' ("/" ++ s) = "/" ++ before '?' s := by
  apply String.toList_injective
  simp only [before, String.toList_ofList, String.toList_append]
  rfl

/-- A path that is asked for ends in white space exactly when the result does. -/
theorem endsInSpace_asked_iff {asked : String} (h : normalizeRcsPath given = .ok path)
    (ha : AsksFor given asked) : EndsInSpace asked ↔ EndsInSpace path := by
  cases ha with
  | url hurl hasked =>
      rw [normalizeRcsPath_of_url rfl hurl, hasked] at h
      obtain rfl := Except.ok.inj h
      by_cases hempty : asked = ""
      · subst hempty
        have hroot : before '?' "/" = "/" ++ "" := by rfl
        rw [if_pos rfl, hroot, endsInSpace_slash_iff]
      · rw [if_neg hempty, before_path hasked]
  | @text hurl query hquery hmem htext =>
      have hbefore : before '?' (asked ++ query) = asked :=
        before_eq_iff.mpr ⟨hmem, query, rfl, hquery⟩
      -- With or without the first slash, the end is that of the text.
      have hasked : EndsInSpace asked ↔ EndsInSpace (before '?' (strip given)) := by
        rcases htext with htext | htext
        · rw [← htext, hbefore]
        · rw [← endsInSpace_slash_iff (s := before '?' (strip given)), ← before_slash, ← htext,
            hbefore]
      rw [hasked]
      by_cases hne : strip given = ""
      · rw [normalizeRcsPath_of_empty hne] at h
        rw [hne, ← Except.ok.inj h]
        rfl
      · rw [normalizeRcsPath_of_text rfl hurl hne] at h
        obtain rfl := Except.ok.inj h
        split_ifs
        · rfl
        · rw [before_slash, endsInSpace_slash_iff]

/-- Something is asked for. -/
theorem exists_asksFor (h : normalizeRcsPath given = .ok path) : ∃ asked, AsksFor given asked := by
  cases hurl : isFullUrl (strip given) with
  | true =>
      rw [normalizeRcsPath_of_url rfl hurl] at h
      cases hp : Url.path (strip given) with
      | error message =>
          rw [hp] at h
          cases h
      | ok p => exact ⟨p, .url hurl hp⟩
  | false =>
      obtain ⟨hmem, query, htext, hquery⟩ := before_eq_iff.mp (rfl : before '?' (strip given) = _)
      exact ⟨_, .text hurl hquery hmem (.inl htext)⟩

/-- A result is normalized to itself exactly when no path that is asked for ends in white space. -/
theorem normalize_idempotent_iff (h : normalizeRcsPath given = .ok path) :
    normalizeRcsPath path = .ok path ↔ ∀ asked, AsksFor given asked → ¬ EndsInSpace asked := by
  rw [normalize_fixed_iff h]
  constructor
  · intro hno asked ha
    rwa [endsInSpace_asked_iff h ha]
  · intro hno
    obtain ⟨asked, ha⟩ := exists_asksFor h
    rw [← endsInSpace_asked_iff h ha]
    exact hno asked ha

/-! ### A URL and the path after its host -/

section Url

variable {scheme : String} {cs : List Char}

/-- The checks of `urlparse` on a plain host. -/
theorem netlocError?_eq_none_iff (hhost : PlainHost host) :
    Url.netlocError? host.toList = none ↔ KeepsAuthority host := by
  have hbracket : ∀ c ∈ ['[', ']'], host.toList.contains c = false := by
    intro c hc
    rw [Bool.eq_false_iff]
    intro hmem
    refine (hhost c (List.contains_iff_mem.mp hmem)).1 ?_
    simp only [List.mem_cons, List.not_mem_nil, or_false] at hc ⊢
    rcases hc with rfl | rfl <;> simp
  have herror : Url.netlocError? host.toList =
      if host.toList.any fun c => Url.nfkcDelimiters.contains c.toNat then
        some ("netloc '" ++ .ofList host.toList ++
          "' contains invalid characters under NFKC normalization")
      else none := by
    rw [Url.netlocError?, hbracket '[' List.mem_cons_self,
      hbracket ']' (List.mem_cons_of_mem _ List.mem_cons_self)]
    rfl
  rw [herror, KeepsAuthority]
  cases hany : host.toList.any fun c => Url.nfkcDelimiters.contains c.toNat with
  | true =>
      obtain ⟨c, hc, hdelimiter⟩ := List.any_eq_true.mp hany
      refine iff_of_false (Option.some_ne_none _) ?_
      intro hkeeps
      rw [hkeeps c hc] at hdelimiter
      cases hdelimiter
  | false =>
      refine iff_of_true rfl ?_
      intro c hc
      exact Bool.eq_false_iff.mpr (List.any_eq_false.mp hany c hc)

/-- A URL is stripped at the end of its path only. -/
theorem strip_url (host : String) (hscheme : scheme = "http" ∨ scheme = "https")
    (h : path.toList = '/' :: cs) :
    strip (scheme ++ "://" ++ host ++ path) = .ofList (scheme.toList ++ "://".toList ++
      host.toList ++ '/' :: cs.rdropWhile isSpace) := by
  have hslash : ¬ isSpace '/' = true := by decide
  have hlist : ((scheme ++ "://" ++ host ++ path).toList.dropWhile isSpace) =
      scheme.toList ++ "://".toList ++ host.toList ++ '/' :: cs := by
    simp only [String.toList_append, h]
    rcases hscheme with rfl | rfl <;> rfl
  rw [strip, trim, hlist, rdropWhile_append_cons hslash]

/-- **A URL and the path after its host** are normalized alike exactly when `urlparse` accepts the
host and keeps the path. -/
theorem normalize_url_iff (hscheme : scheme = "http" ∨ scheme = "https") (hhost : PlainHost host)
    (h : path.toList = '/' :: cs) :
    normalizeRcsPath (scheme ++ "://" ++ host ++ path) = normalizeRcsPath path ↔
      KeepsAuthority host ∧ Url.KeepsPath (spelledPath path) := by
  obtain ⟨hstrip, hnormal⟩ := normalize_of_slash h
  have hraw := strip_url host hscheme h
  have hurl : isFullUrl (strip (scheme ++ "://" ++ host ++ path)) = true := by
    rw [hraw, isFullUrl, startsWith, startsWith]
    simp only [String.toList_ofList]
    rcases hscheme with rfl | rfl <;> rfl
  have hauthority : ∀ c ∈ host.toList, Url.isDelimiter c = false ∧ Url.isRemoved c = false := by
    intro c hc
    obtain ⟨hplain, hspace⟩ := hhost c hc
    simp only [List.mem_cons, List.not_mem_nil, or_false, not_or] at hplain
    constructor
    · simp [Url.isDelimiter, hplain]
    · rw [Url.isRemoved, Bool.eq_false_iff]
      intro hremoved
      simp only [List.contains_iff_mem, List.mem_cons, List.not_mem_nil, or_false] at hremoved
      rcases hremoved with rfl | rfl | rfl <;> cases hspace
  have hparts := Url.path_of_parts (cs.rdropWhile isSpace)
    (hscheme.imp (congrArg String.toList) (congrArg String.toList)) hauthority
  rw [← hraw] at hparts
  rw [normalizeRcsPath_of_url rfl hurl, hnormal, ← netlocError?_eq_none_iff hhost]
  cases hnet : Url.netlocError? host.toList with
  | some message =>
      rw [hnet] at hparts
      rw [hparts]
      constructor
      · intro hfalse
        cases hfalse
      · rintro ⟨hnone, -⟩
        cases hnone
  | none =>
      rw [hnet] at hparts
      have hslash : Url.isRemoved '/' = false := rfl
      have hspelled : spelledPath path = ('/' :: cs.rdropWhile isSpace).takeWhile (· != '?') := by
        rw [spelledPath, hstrip]
      have htail : ('/' :: cs.rdropWhile isSpace).filter (fun c => !Url.isRemoved c) =
          '/' :: (cs.rdropWhile isSpace).filter fun c => !Url.isRemoved c := by
        rw [List.filter_cons_of_pos (by rw [hslash]; rfl)]
      have hiff := Url.pathOf_filter_eq_iff ('/' :: cs.rdropWhile isSpace)
      rw [← hspelled, htail] at hiff
      -- A path that begins with a slash is not empty.
      have hne : String.ofList (Url.pathOf ('/' :: (cs.rdropWhile isSpace).filter
          fun c => !Url.isRemoved c)) ≠ "" := by
        obtain ⟨cs', hcs'⟩ := Url.pathOf_slash ((cs.rdropWhile isSpace).filter
          fun c => !Url.isRemoved c)
        rw [hcs']
        intro hempty
        have hnil := congrArg String.toList hempty
        rw [String.toList_ofList] at hnil
        cases hnil
      rw [hparts]
      dsimp only
      rw [if_neg hne, before_path hparts, eq_self, true_and, ← hiff, Except.ok.injEq, before,
        ← spelledPath, String.ofList_inj]

end Url

/-- **The spellings of one target.**  A result is normalized to itself exactly when no path that is
asked for ends in white space, and a URL is normalized as the path after its host exactly when
`urlparse` accepts the host and keeps the path. -/
theorem spellings_agree_iff {given result scheme host path : String}
    (h : normalizeRcsPath given = .ok result) (hscheme : scheme = "http" ∨ scheme = "https")
    (hhost : PlainHost host) (hstart : startsWith path "/" = true) :
    (normalizeRcsPath result = .ok result ↔ ∀ asked, AsksFor given asked → ¬ EndsInSpace asked) ∧
    (normalizeRcsPath (scheme ++ "://" ++ host ++ path) = normalizeRcsPath path ↔
      KeepsAuthority host ∧ Url.KeepsPath (spelledPath path)) := by
  refine ⟨normalize_idempotent_iff h, ?_⟩
  obtain ⟨rest, rfl⟩ := startsWith_iff.mp hstart
  have hpath : ("/" ++ rest).toList = '/' :: rest.toList := by
    rw [String.toList_append]
    rfl
  exact normalize_url_iff hscheme hhost hpath

theorem ok_of_toOption {ε α : Type} {x : Except ε α} {a : α} (h : x.toOption = some a) :
    x = .ok a := by
  cases x with
  | error e => cases h
  | ok b => exact congrArg Except.ok (Option.some.inj h)

/-- A path with a query, and the same path as a URL. -/
theorem spellings_agree_plain :
    (∀ asked, AsksFor " /rcs/rtas/x?y " asked → ¬ EndsInSpace asked) ∧
      normalizeRcsPath ("https" ++ "://" ++ "10.0.0.2" ++ "/rcs/rtas/x") =
        normalizeRcsPath "/rcs/rtas/x" := by
  have hfixed : normalizeRcsPath "/rcs/rtas/x" = .ok "/rcs/rtas/x" :=
    ok_of_toOption (by decide)
  have hgiven : normalizeRcsPath " /rcs/rtas/x?y " = .ok "/rcs/rtas/x" :=
    ok_of_toOption (by decide)
  have hscheme : "https" = "http" ∨ "https" = "https" := .inr rfl
  have hhost : PlainHost "10.0.0.2" := by decide
  have hstart : startsWith "/rcs/rtas/x" "/" = true := by decide
  obtain ⟨hresult, hurl⟩ := spellings_agree_iff hgiven hscheme hhost hstart
  refine ⟨hresult.mp hfixed, hurl.mpr ⟨?_, ?_⟩⟩
  all_goals decide

/-- **Spellings that disagree**: white space before a query, a fragment and parameters. -/
theorem spellings_disagree :
    (normalizeRcsPath "/rcs/rtas/x ?y" = .ok "/rcs/rtas/x " ∧
      normalizeRcsPath "/rcs/rtas/x " = .ok "/rcs/rtas/x") ∧
    (normalizeRcsPath "http://10.0.0.2/rcs/rtas/x#y" = .ok "/rcs/rtas/x" ∧
      normalizeRcsPath "/rcs/rtas/x#y" = .ok "/rcs/rtas/x#y") ∧
    (normalizeRcsPath "http://10.0.0.2/rcs/rtas/x;y" = .ok "/rcs/rtas/x" ∧
      normalizeRcsPath "/rcs/rtas/x;y" = .ok "/rcs/rtas/x;y") := by
  refine ⟨⟨?_, ?_⟩, ⟨?_, ?_⟩, ?_, ?_⟩
  all_goals exact ok_of_toOption (by decide)

end Rcs
