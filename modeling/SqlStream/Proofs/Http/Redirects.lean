import SqlStream.Proofs.Http.Continuity
import SqlStream.Proofs.Text.Trim

/-!
# Redirects

A caller's URL is normalized when a stream is made of it. One that a server redirects to is taken as
it is, and only the slashes at its end are dropped when a request goes there. The two lead to the
same place exactly for the URLs that normalizing leaves alone but for such slashes (`IsPlainUrl`):
not for one with the path for requests at its end, nor for one of the scheme `libsql`.
-/

namespace SqlStream.Http

open SqlStream.Text SqlStream.Wire

/-! ## Plain URLs -/

/-- A URL without the slashes at its end. -/
def withoutSlashes (url : String) : List Char :=
  trimEndOf (fun c => c == '/') url.toList

/-- A URL that has nothing to normalize but slashes at its end. -/
structure IsPlainUrl (url : String) : Prop where
  bareEnds : HasBareEnds url.toList
  noPath : ¬ "/v2/pipeline".toList <:+ withoutSlashes url
  noLibsql : ¬ "libsql://".toList <+: withoutSlashes url

/-- Two URLs have the same pipeline URL exactly if they agree but for trailing slashes. -/
theorem pipelineUrl_eq_iff {url other : String} :
    pipelineUrl url = pipelineUrl other ↔ withoutSlashes url = withoutSlashes other := by
  unfold pipelineUrl
  rw [String.ofList_inj, List.append_left_inj]
  rfl

/-- A URL with the scheme `https` in the place of `libsql`. -/
def withHttps (url : List Char) : List Char :=
  match dropFront? "libsql://".toList url with
  | some host => "https://".toList ++ host
  | none => url

/-- A URL of another scheme keeps it. -/
theorem withHttps_of_other_scheme {url : List Char} (h : ¬ "libsql://".toList <+: url) :
    withHttps url = url := by
  have hnone : dropFront? "libsql://".toList url = none :=
    Option.eq_none_iff_forall_ne_some.mpr fun host hhost =>
      h ⟨host, (dropFront?_eq_some_iff.mp hhost).symm⟩
  rw [withHttps, hnone]

/-- Rewriting `libsql://` shortens a URL. -/
theorem length_withHttps_lt {url : List Char} (h : "libsql://".toList <+: url) :
    (withHttps url).length < url.length := by
  obtain ⟨host, rfl⟩ := h
  rw [withHttps, dropFront?_eq_some_iff.mpr rfl, List.length_append, List.length_append]
  exact Nat.add_lt_add_right (by decide) _

/-- Rewriting the scheme never lengthens a URL. -/
theorem length_withHttps_le (url : List Char) : (withHttps url).length ≤ url.length := by
  by_cases h : "libsql://".toList <+: url
  · exact (length_withHttps_lt h).le
  · rw [withHttps_of_other_scheme h]

/-- A URL without the path for requests at its end. -/
def withoutPath (url : List Char) : List Char :=
  (dropEnd? "/v2/pipeline".toList url).getD url

/-- A URL that does not end in the pipeline path keeps its path. -/
theorem withoutPath_of_not_suffix {url : List Char} (h : ¬ "/v2/pipeline".toList <:+ url) :
    withoutPath url = url := by
  have hnone : dropEnd? "/v2/pipeline".toList url = none :=
    Option.eq_none_iff_forall_ne_some.mpr fun stem hstem =>
      h ⟨stem, (dropEnd?_eq_some_iff.mp hstem).symm⟩
  rw [withoutPath, hnone, Option.getD_none]

/-- Taking the pipeline path off shortens a URL. -/
theorem length_withoutPath_lt {url : List Char} (h : "/v2/pipeline".toList <:+ url) :
    (withoutPath url).length < url.length := by
  obtain ⟨stem, rfl⟩ := h
  rw [withoutPath, dropEnd?_eq_some_iff.mpr rfl, Option.getD_some, List.length_append]
  exact Nat.lt_add_of_pos_right (by decide)

/-- Taking the path off never lengthens a URL. -/
theorem length_withoutPath_le (url : List Char) : (withoutPath url).length ≤ url.length := by
  by_cases h : "/v2/pipeline".toList <:+ url
  · exact (length_withoutPath_lt h).le
  · rw [withoutPath_of_not_suffix h]

/-- A URL is trimmed, freed of trailing slashes and the pipeline path, and its scheme rewritten. -/
theorem toList_normalizeUrl (url : String) :
    (normalizeUrl url).toList =
      withHttps (withoutPath (trimEndOf (fun c => c == '/') (trimSpace url.toList))) := by
  unfold normalizeUrl withHttps withoutPath pipelinePath
  split <;> simp_all

/-- White space is no slash. -/
theorem not_slash_of_isWhiteSpace (c : Char) (h : isWhiteSpace c = true) : (c == '/') = false := by
  rw [beq_eq_false_iff_ne]
  rintro rfl
  exact absurd h (by decide)

/-- A URL leads to the same place as it is and normalized exactly if it is plain. -/
theorem withoutSlashes_normalizeUrl_eq_iff {url : String} :
    withoutSlashes (normalizeUrl url) = withoutSlashes url ↔ IsPlainUrl url := by
  let trimmed := trimEndOf (fun c => c == '/') (trimSpace url.toList)
  have hnormalized : withoutSlashes (normalizeUrl url) =
      trimEndOf (fun c => c == '/') (withHttps (withoutPath trimmed)) := by
    rw [withoutSlashes, toList_normalizeUrl]
  rw [hnormalized]
  constructor
  · intro h
    -- no step of normalizing adds a character, so none may drop one
    have hscheme := length_withHttps_le (withoutPath trimmed)
    have hpath := length_withoutPath_le trimmed
    have htrimmed : trimmed.length ≤ (withoutSlashes url).length :=
      length_trimEndOf_mono (trimSpace_infix_self url.toList)
    have hall : (withoutSlashes url).length ≤ (withHttps (withoutPath trimmed)).length :=
      h ▸ (trimEndOf_prefix_self _ _).length_le
    have hends : HasBareEnds url.toList := by
      by_contra hspace
      have : trimmed.length < (withoutSlashes url).length :=
        length_trimEndOf_trimSpace_lt not_slash_of_isWhiteSpace hspace
      omega
    have hself : trimmed = withoutSlashes url :=
      congrArg (trimEndOf fun c => c == '/') hends.trimSpace_eq
    have hnoPath : ¬ "/v2/pipeline".toList <:+ withoutSlashes url := by
      intro hsuffix
      have := length_withoutPath_lt (hself ▸ hsuffix)
      omega
    refine ⟨hends, hnoPath, fun hprefix => ?_⟩
    have hbase : withoutPath trimmed = withoutSlashes url := by
      rw [hself, withoutPath_of_not_suffix hnoPath]
    have := length_withHttps_lt (hbase ▸ hprefix)
    omega
  · intro h
    have hself : trimmed = withoutSlashes url :=
      congrArg (trimEndOf fun c => c == '/') h.bareEnds.trimSpace_eq
    rw [hself, withoutPath_of_not_suffix h.noPath, withHttps_of_other_scheme h.noLibsql]
    exact trimEndOf_trimEndOf _ _

/-! ## Streams that were redirected -/

/-- Postings of which the last one that redirects the stream redirects it to a URL. -/
def LastRedirectsTo (postings : List Posting) (url : String) : Prop :=
  ∃ before posting after, postings = before ++ posting :: after ∧ posting.RedirectsTo url ∧
    ∀ later ∈ after, ∀ other, ¬ later.RedirectsTo other

/-- A posting redirects to at most one URL. -/
theorem Posting.RedirectsTo.unique {posting : Posting} {url other : String}
    (h : posting.RedirectsTo url) (hother : posting.RedirectsTo other) : url = other := by
  obtain ⟨response, hreads, hurl, -⟩ := h
  obtain ⟨_, hreadsOther, hurlOther, -⟩ := hother
  obtain rfl := hreads.unique hreadsOther
  exact Option.some.inj (hurl.symm.trans hurlOther)

/-- A stream that was redirected goes to where it was redirected to last. -/
theorem IsTarget.eq_of_lastRedirectsTo {baseUrl target url : String} {postings : List Posting}
    (h : IsTarget baseUrl postings target) (hlast : LastRedirectsTo postings url) :
    target = url := by
  obtain ⟨before, posting, after, rfl, hredirects, hafter⟩ := hlast
  rcases h with ⟨-, hnone⟩ | ⟨before', posting', after', heq, hredirects', hafter'⟩
  · exact absurd hredirects (hnone posting (by simp) url)
  · -- of two postings that redirect the stream, one is behind the other
    rcases List.append_eq_append_iff.mp heq with ⟨between, rfl, hrest⟩ | ⟨between, rfl, hrest⟩
    · cases between with
      | nil =>
        obtain ⟨rfl, -⟩ := List.cons.inj hrest
        exact hredirects'.unique hredirects
      | cons _ between =>
        obtain ⟨-, rfl⟩ := List.cons.inj hrest
        exact absurd hredirects' (hafter posting' (by simp) target)
    · cases between with
      | nil =>
        obtain ⟨rfl, -⟩ := List.cons.inj hrest
        exact hredirects'.unique hredirects
      | cons _ between =>
        obtain ⟨-, rfl⟩ := List.cons.inj hrest
        exact absurd hredirects (hafter' posting (by simp) url)

/-- A stream that is still open behind calls in which the server redirected it sends its next
request to the place to which the server redirected it last. That is the place where a new stream
made of the same URL sends its own exactly if the URL is plain. -/
theorem redirected_like_new_iff {σ : Type} [Server σ] (server : σ) (baseUrl authorization : String)
    (options : Options) (calls : List StreamCall) (url : String) :
    let start : Stream σ := { Stream.new server baseUrl authorization with options }
    let stream := streamAfter calls start
    stream.session.isClosed = false →
    LastRedirectsTo (allPostings (Stream.passages calls start)) url →
    ∀ (other : σ) (otherAuthorization : String) (body : PipelineRequest),
      (stream.httpRequest body).url = ((Stream.new other url otherAuthorization).httpRequest body).url
        ↔ IsPlainUrl url := by
  intro start stream hopen hlast other otherAuthorization body
  have hstart : start.Stands (normalizeUrl baseUrl) [] start := Stream.stands_start rfl rfl
  obtain ⟨target, htarget, hIsTarget⟩ := (hstart.run calls).target hopen
  obtain rfl := hIsTarget.eq_of_lastRedirectsTo hlast
  show pipelineUrl (stream.session.baseUrl.getD "") = pipelineUrl (normalizeUrl target) ↔ _
  rw [htarget, Option.getD_some, pipelineUrl_eq_iff, eq_comm]
  exact withoutSlashes_normalizeUrl_eq_iff

/-! ## A stream that is redirected once -/

/-- A reply that redirects a stream, with the answer to a request that drops a stored text. -/
def redirecting (url : String) : HttpReply :=
  .answered 200 ("\x7b\"baton\":\"b\",\"base_url\":\"" ++ url ++
    "\",\"results\":[\x7b\"type\":\"ok\",\"response\":\x7b\"type\":\"close_sql\"\x7d\x7d]\x7d")

/-- A stream whose server redirects it to a URL with its first reply. -/
def toBeRedirected (url : String) : Stream Prepared :=
  .new ⟨[redirecting url]⟩ "http://db" "token"

/-- The stream behind that reply. -/
def redirected (url : String) : Stream Prepared :=
  streamAfter [.send [.closeSql 0]] (toBeRedirected url)

/-- What was posted before. -/
def postedBefore (url : String) : List Posting :=
  allPostings (Stream.passages [.send [.closeSql 0]] (toBeRedirected url))

theorem lastRedirectsTo_postedBefore {url : String} {response : PipelineResponse}
    {request : HttpRequest} (hposted : postedBefore url = [⟨request, redirecting url⟩])
    (hread : readReply (redirecting url) = .ok response) (hurl : response.baseUrl = some url)
    (hne : url ≠ "") : LastRedirectsTo (postedBefore url) url := by
  rw [hposted]
  exact ⟨[], _, [], rfl, ⟨response, readReply_eq_ok_iff.mp hread, hurl, hne⟩, by simp⟩

/-- The request before the redirect. -/
def requestBefore : HttpRequest :=
  ⟨"http://db/v2/pipeline", some "token", ⟨none, [.closeSql 0]⟩, 10000⟩

theorem redirected_like_new_iff_of_slash :
    (redirected "http://replica/").session.isClosed = false ∧
      LastRedirectsTo (postedBefore "http://replica/") "http://replica/" ∧
      IsPlainUrl "http://replica/" ∧
      ((redirected "http://replica/").httpRequest ⟨none, []⟩).url =
        ((Stream.new (⟨[]⟩ : Prepared) "http://replica/" "").httpRequest ⟨none, []⟩).url := by
  have hopen : (redirected "http://replica/").session.isClosed = false := by decide +kernel
  have hposted : postedBefore "http://replica/" = [⟨requestBefore, redirecting "http://replica/"⟩] := by
    decide +kernel
  have hread : readReply (redirecting "http://replica/") =
      .ok ⟨some "b", some "http://replica/", [.ok (some .closeSql)]⟩ := by
    decide +kernel
  have hlast := lastRedirectsTo_postedBefore hposted hread rfl (by decide)
  have hends : HasBareEnds "http://replica/".toList :=
    { front := fun c hc => by
        obtain rfl : 'h' = c := Option.some.inj hc
        rfl
      last := fun c hc => by
        obtain rfl : '/' = c := Option.some.inj hc
        rfl }
  have hplain : IsPlainUrl "http://replica/" :=
    { bareEnds := hends, noPath := by decide, noLibsql := by decide }
  refine ⟨hopen, hlast, hplain, ?_⟩
  exact (redirected_like_new_iff (⟨[redirecting "http://replica/"]⟩ : Prepared) "http://db" "token" {}
    [.send [.closeSql 0]] "http://replica/" hopen hlast ⟨[]⟩ "" ⟨none, []⟩).mpr hplain

/-- A redirect keeps the scheme of a URL that a new stream would replace. -/
theorem redirect_not_normalized :
    (redirected "libsql://replica").session.isClosed = false ∧
      LastRedirectsTo (postedBefore "libsql://replica") "libsql://replica" ∧
      ((redirected "libsql://replica").httpRequest ⟨none, []⟩).url =
        "libsql://replica/v2/pipeline" ∧
      ((Stream.new (⟨[]⟩ : Prepared) "libsql://replica" "").httpRequest ⟨none, []⟩).url =
        "https://replica/v2/pipeline" := by
  have hposted : postedBefore "libsql://replica" =
      [⟨requestBefore, redirecting "libsql://replica"⟩] := by
    decide +kernel
  have hread : readReply (redirecting "libsql://replica") =
      .ok ⟨some "b", some "libsql://replica", [.ok (some .closeSql)]⟩ := by
    decide +kernel
  exact ⟨by decide +kernel, lastRedirectsTo_postedBefore hposted hread rfl (by decide),
    by decide +kernel, by decide +kernel⟩

end SqlStream.Http
