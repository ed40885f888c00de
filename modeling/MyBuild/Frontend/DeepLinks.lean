import MyBuild.Frontend.Routing

/-!
# A link that is opened before the sign-in

The proxy puts the address into the query of the login page, the page takes it out again and lets
it through as a path of the application, and the form leads there after the sign-in.
-/

namespace MyBuild

variable {session : ProxySession} {url other : NextUrl} {role : Role} {pathname : List Char}

namespace NextUrl.IsParsed

/-- The mark of the query cuts the text of an address in one place. -/
theorem takeWhile_eq (parsed : url.IsParsed) :
    (url.pathname ++ url.search).takeWhile (· != '?') = url.pathname := by
  have all : ∀ char ∈ url.pathname, (char != '?') = true := by
    intro char mem
    simp only [bne_iff_ne]
    rintro rfl
    exact parsed.unquestioned mem
  rw [List.takeWhile_append_of_pos all]
  rcases parsed.question with none | isMark
  · simp [none]
  · cases chars : url.search with
    | nil => simp
    | cons first rest =>
        rw [chars] at isMark
        cases isMark
        simp

theorem eq_of_href (parsed : url.IsParsed) (otherParsed : other.IsParsed)
    (same : other.href = url.href) : other = url := by
  have chars : other.pathname ++ other.search = url.pathname ++ url.search :=
    String.ofList_injective same
  have samePath : other.pathname = url.pathname := by
    rw [← otherParsed.takeWhile_eq, chars, parsed.takeWhile_eq]
  have sameSearch : other.search = url.search := by
    rw [samePath] at chars
    exact List.append_cancel_left chars
  cases other
  cases url
  simp_all

end NextUrl.IsParsed

theorem trimEdges_of_visible {text : List Char}
    (visible : ∀ char ∈ text, edgeCharMaxCode < char.toNat) : trimEdges text = text := by
  rcases Pieces.exists_trim (fun char : Char => char.toNat ≤ edgeCharMaxCode) text with
    ⟨before, after, isText, leading, trailing⟩
  have nothing : ∀ letters : List Char, (∀ letter ∈ letters, letter ∈ text) →
      (∀ letter ∈ letters, decide (letter.toNat ≤ edgeCharMaxCode) = true) → letters = [] := by
    intro letters inText skipped
    apply List.eq_nil_iff_forall_not_mem.mpr
    intro letter mem
    have isVisible := visible letter (inText letter mem)
    have isBlank := of_decide_eq_true (skipped letter mem)
    omega
  have noBefore := nothing before (fun letter mem => by rw [isText]; simp [mem]) leading
  have noAfter := nothing after (fun letter mem => by rw [isText]; simp [mem]) trailing
  rw [noBefore, noAfter, List.nil_append, List.append_nil] at isText
  exact isText.symm

/-- The path begins with a section of the cabinet. -/
theorem exists_section (isSection : Proxy.isAppSection pathname = true) :
    ∃ folder ∈ Proxy.appSections, ∃ rest, pathname = folder.toList ++ rest := by
  rcases List.any_eq_true.mp isSection with ⟨folder, mem, under⟩
  refine ⟨folder, mem, ?_⟩
  simp only [isUnder, Bool.or_eq_true, beq_iff_eq] at under
  rcases under with same | below
  · exact ⟨[], by simp [same]⟩
  · rcases List.isPrefixOf_iff_prefix.mp below with ⟨rest, rfl⟩
    exact ⟨'/' :: rest, by simp⟩

/-- A section is neither a page for guests nor one about the session, and its path stays on the
origin. -/
theorem section_cases (isSection : Proxy.isAppSection pathname = true) :
    Proxy.isAuthFlowPage pathname = false ∧
      Proxy.isOneOf Proxy.guestOnlyPages pathname = false ∧
      Proxy.isOneOf Proxy.sessionIssuePaths pathname = false ∧
      ∀ search, isRelativePath (pathname ++ search) = true ∧ pathname ++ search ≠ "/".toList := by
  rcases exists_section isSection with ⟨folder, mem, rest, rfl⟩
  simp only [Proxy.appSections, List.mem_cons, List.not_mem_nil, or_false] at mem
  rcases mem with rfl | rfl | rfl | rfl | rfl | rfl | rfl
  all_goals
    refine ⟨rfl, rfl, rfl, fun search => ⟨rfl, ?_⟩⟩
    intro same
    cases same

theorem NextUrl.IsParsed.isSafePath (parsed : url.IsParsed)
    (isSection : Proxy.isAppSection url.pathname = true) : IsSafePath url.href where
  trimmed := by
    rw [NextUrl.href, String.toList_ofList]
    exact trimEdges_of_visible parsed.visible
  counted := by
    rw [NextUrl.href, String.toList_ofList]
    intro char mem
    have isVisible := parsed.visible char mem
    simp only [isStrippedAnywhere, Bool.or_eq_false_iff, beq_eq_false_iff_ne]
    refine ⟨⟨?_, ?_⟩, ?_⟩ <;>
    · rintro rfl
      revert isVisible
      decide
  relative := by
    rw [NextUrl.href, String.toList_ofList]
    exact ((section_cases isSection).2.2.2 url.search).1

/-- What the login page reads of its query is the address the proxy has written there. -/
theorem next_loginWithNext (parsed : url.IsParsed)
    (isSection : Proxy.isAppSection url.pathname = true) :
    LoginPage.next (Proxy.loginWithNext url).search = some url.href := by
  have query : (Proxy.loginWithNext url).search.drop 1 =
      FormUrlEncoded.serialize [("next", url.href)] := rfl
  have given : QueryParameter.read "next" [("next", url.href)] = .single url.href := rfl
  simp only [LoginPage.next, query, FormUrlEncoded.parse_serialize, bind, Option.bind_some, given,
    (parsed.isSafePath isSection).safeNextPath_eq]

example :
    (Proxy.loginWithNext
      { pathname := "/orders".toList, search := "?q=a&page=2".toList }).search =
    "?next=%2Forders%3Fq%3Da%26page%3D2".toList := by decide

theorem resolveAfterAuthHref_href (isSection : Proxy.isAppSection url.pathname = true)
    (known : Option JWTPayload) : resolveAfterAuthHref url.href known = url.href := by
  apply if_pos
  intro isRoot
  apply ((section_cases isSection).2.2.2 url.search).2
  rw [← isRoot, NextUrl.href, String.toList_ofList]

theorem shown_section (member : session.IsMember role)
    (isSection : Proxy.isAppSection url.pathname = true)
    (allowed : Proxy.isAllowedForRole url.pathname role = true) : Shown session url := by
  rcases section_cases isSection with ⟨notFlow, notGuestOnly, notIssue, notRoot⟩
  apply shown_of_proxy ?_ rfl
  · apply Page.answer_of_user (isSome_of_user member.notGuest)
    · intro isLanding
      apply (notRoot []).2
      rw [List.append_nil]
      exact pathname_of_page isLanding (by decide) (by decide)
    · intro isCallback
      have isPath : url.pathname = "/callback".toList :=
        pathname_of_page isCallback (by decide) (by decide)
      rw [isPath] at notFlow
      revert notFlow
      decide
  · rw [proxy_of_member member notFlow]
    simp only [Proxy.redirectMember, notGuestOnly, notIssue, allowed, Bool.or_self, Bool.not_true,
      Bool.false_eq_true, if_false]

/-- A member who opens a section stays there or is led home. -/
theorem follow_section (member : session.IsMember role)
    (isSection : Proxy.isAppSection url.pathname = true)
    (isMatched : Proxy.isMatched url.pathname = true) :
    follow session 2 url =
      if Proxy.isAllowedForRole url.pathname role then url
      else .page (getHomeHref (some role)) := by
  cases allowed : Proxy.isAllowedForRole url.pathname role with
  | true =>
      rw [(shown_section member isSection allowed).follow_eq]
      rfl
  | false =>
      rcases section_cases isSection with ⟨notFlow, notGuestOnly, notIssue, -⟩
      have proxied := proxy_of_member member notFlow
      simp only [Proxy.redirectMember, notGuestOnly, notIssue, Bool.or_self, Bool.false_eq_true,
        if_false, allowed, Bool.not_false, if_true] at proxied
      have first : follow session 2 url = follow session 1 (.page (getHomeHref (some role))) := by
        simp only [follow, visit, isMatched, if_true, proxied]
      rw [first, (shown_home member).follow_eq]
      rfl

/-- The link a guest has opened is not lost: the login page is shown instead, what it reads of its
query is the text of the link, no other address has that text, and a member whom its form leads
there after the sign-in sees the page, or home where it is not for the role. -/
theorem link_survives_sign_in (guest : session.isGuest = true) (parsed : url.IsParsed)
    (isSection : Proxy.isAppSection url.pathname = true)
    (isMatched : Proxy.isMatched url.pathname = true) :
    ∃ login next, visit session url = .redirect login ∧ visit session login = .page .login ∧
      LoginPage.next login.search = some next ∧ next = url.href ∧
        (∀ address : NextUrl, address.IsParsed → address.href = next → address = url) ∧
        ∀ known role, (updateSession known).IsMember role →
          resolveAfterAuthHref next known = url.href ∧
            follow (updateSession known) 2 url =
              if Proxy.isAllowedForRole url.pathname role then url
              else .page (getHomeHref (some role)) := by
  have sent : visit session url = .redirect (Proxy.loginWithNext url) := by
    simp only [visit, isMatched, if_true, Proxy.proxy, guest, Proxy.redirectGuest, isSection]
  refine ⟨Proxy.loginWithNext url, url.href, sent, shown_login guest rfl,
    next_loginWithNext parsed isSection, rfl, ?_, ?_⟩
  · exact fun address addressParsed same => parsed.eq_of_href addressParsed same
  · intro known role member
    exact ⟨resolveAfterAuthHref_href isSection known, follow_section member isSection isMatched⟩

theorem link_survives_sign_in_documents :
    let url : NextUrl := { pathname := "/documents".toList, search := "?page=2".toList }
    ∃ login next, visit (updateSession none) url = .redirect login ∧
      visit (updateSession none) login = .page .login ∧
      LoginPage.next login.search = some next ∧ next = url.href ∧
        (∀ address : NextUrl, address.IsParsed → address.href = next → address = url) ∧
        ∀ known role, (updateSession known).IsMember role →
          resolveAfterAuthHref next known = url.href ∧
            follow (updateSession known) 2 url =
              if Proxy.isAllowedForRole url.pathname role then url
              else .page (getHomeHref (some role)) :=
  link_survives_sign_in rfl
    { visible := by simp [edgeCharMaxCode]
      unquestioned := by decide
      question := by decide }
    (by decide) (by decide)

end MyBuild
