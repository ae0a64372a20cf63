import Mathlib.Data.List.Infix
import PipedQuery.Client

/-!
Where the requests of a client go. A client is configured with a base URL, which may have a path of
its own, as behind a proxy. All its requests go to the server of that URL. A request about an index
is made by going down from the base path (`child`), and so it stays below it, unless the name of the
index is `..` once the characters are dropped that do not count. A request about the cluster as a
whole is made at the root of the server (`atRoot`) and is below the base path only if that is empty
or happens to begin the same way. `requests_under_iff` says exactly when each request is below its
base.
-/

set_option autoImplicit false
set_option relaxedAutoImplicit false

namespace PipedQuery

namespace Url

/-- The segments of the path, without an empty last one. -/
def trunk (url : Url) : List String :=
  if url.segments.getLast? = some "" then url.segments.dropLast else url.segments

/-- The URL is at the server of the base, and its path goes on from that of the base. -/
@[mk_iff]
structure Under (base url : Url) : Prop where
  scheme : url.scheme = base.scheme
  host : url.host = base.host
  port : url.port = base.port
  path : base.trunk <+: url.segments

instance (base url : Url) : Decidable (base.Under url) :=
  decidable_of_iff _ (under_iff base url).symm

/-- The text goes up when it is appended: it is `..`, but only once the characters that do not count
are dropped. -/
def Climbs (text : String) : Prop :=
  text ≠ ".." ∧ cleaned text.toList = ['.', '.']

instance (text : String) : Decidable (Climbs text) :=
  inferInstanceAs (Decidable (_ ∧ _))

/-- What a segment is appended to: an empty root gives way to it. -/
def opened (segments : List String) : List String :=
  if segments = [""] then [] else segments

variable {scheme endpoint : String} {segments : List String} {base : Url}

theorem opened_eq_self (hempty : "" ∉ segments) : opened segments = segments := by
  refine if_neg ?_
  rintro rfl
  exact hempty (List.mem_singleton_self "")

theorem prefix_opened_concat (segments : List String) (last : String) :
    segments <+: opened (segments ++ [last]) := by
  unfold opened
  split_ifs with hroot
  · obtain ⟨rfl, -⟩ := List.append_eq_singleton_iff.mp hroot |>.resolve_right (by simp)
    exact List.nil_prefix
  · exact List.prefix_append segments [last]

/-- A path that is free of empty segments, but for a last one, is gone down from its trunk. -/
theorem opened_dropEmptyLast (hpath : "" ∉ base.trunk) :
    opened (dropEmptyLast base.segments) = base.trunk := by
  by_cases hroot : base.segments = [""]
  · simp [dropEmptyLast, trunk, opened, hroot]
  · have hsame : dropEmptyLast base.segments = base.trunk := by
      simp only [dropEmptyLast, trunk, hroot, if_false]
    rw [hsame, opened_eq_self hpath]

/-- An endpoint is appended as it stands. -/
theorem append_endpoint (hendpoint : endpoint ∈ ["_mapping", "_search"])
    (scheme : String) (segments : List String) :
    append scheme segments endpoint = opened segments ++ [endpoint] := by
  simp only [List.mem_cons, List.not_mem_nil, or_false] at hendpoint
  rcases hendpoint with rfl | rfl <;> cases hspecial : isSpecial scheme <;>
    simp only [append, segment, hspecial] <;> rfl

/-- Of a path that ends in a segment which is no drive, the parent is the path without it. -/
theorem parent_concat_cases (segments : List String) (last : String) :
    parent (segments ++ [last]) = segments ++ [last] ∨
      parent (segments ++ [last]) = segments := by
  unfold parent
  split_ifs
  · exact Or.inl rfl
  · exact Or.inr (by simp)

/-- Going up leads out of a path, unless it ends in a drive, or the endpoint takes the place of the
one segment that was left. -/
theorem prefix_parent_iff (hsegments : "" ∉ segments) (endpoint : String) :
    segments <+: opened (parent segments ++ [""]) ++ [endpoint] ↔
      parent segments = segments ∨ segments = [endpoint] := by
  rcases List.eq_nil_or_concat' segments with rfl | ⟨above, last, rfl⟩
  · simp [parent]
  have hlast : last ≠ "" := fun hempty ↦ hsegments (by simp [hempty])
  rcases parent_concat_cases above last with hdrive | hparent
  · simp only [hdrive, true_or, iff_true]
    exact (prefix_opened_concat _ "").trans (List.prefix_append _ _)
  have hmoved : above ≠ above ++ [last] := by simp
  rw [hparent, or_iff_right hmoved]
  cases above with
  | nil => simp [opened]
  | cons first rest =>
    have hopened : opened (first :: rest ++ [""]) = first :: rest ++ [""] := if_neg (by simp)
    rw [hopened, List.append_assoc, List.prefix_append_right_inj]
    simp [hlast]

/-- A segment stays below the path to which it is appended, unless it climbs. -/
theorem prefix_append_iff (hpath : "" ∉ base.trunk) (scheme text endpoint : String) :
    base.trunk <+: opened (append scheme (dropEmptyLast base.segments) text) ++ [endpoint] ↔
      ¬ (Climbs text ∧ parent base.trunk ≠ base.trunk ∧ base.trunk ≠ [endpoint]) := by
  have hopened := opened_dropEmptyLast hpath
  by_cases hskipped : text = "." ∨ text = ".."
  · -- Nothing is appended.
    have hstays : ¬ Climbs text := by
      rintro ⟨hdots, hclean⟩
      rcases hskipped with rfl | rfl
      · exact absurd hclean (by decide)
      · exact hdots rfl
    simp only [append, hskipped, if_true, hopened, hstays, false_and, not_false_iff, iff_true]
    exact List.prefix_append _ _
  have habove : (if dropEmptyLast base.segments = [""] then [] else dropEmptyLast base.segments) =
      base.trunk := hopened
  simp only [append, hskipped, if_false, habove]
  by_cases hup : cleaned text.toList = ['.', '.']
  · have hclimbs : Climbs text := ⟨fun hdots ↦ hskipped (Or.inr hdots), hup⟩
    rw [if_pos hup, prefix_parent_iff hpath]
    simp only [hclimbs, true_and]
    tauto
  · have hstays : ¬ Climbs text := fun hclimbs ↦ hup hclimbs.2
    simp only [hup, hstays, false_and, not_false_iff, iff_true, if_false]
    split_ifs <;> exact (prefix_opened_concat _ _).trans (List.prefix_append _ _)

theorem segments_child (url : Url) (texts : List String) :
    (url.child texts).segments = texts.foldl (append url.scheme) (dropEmptyLast url.segments) :=
  rfl

end Url

/-! ### Requests -/

namespace Client

variable {connection : Connection} {client : Client} {base : Url}

/-- The requests that a client sends: about the cluster itself, for the index list, for the mapping
of an index and for a sample of the values of a field. -/
inductive Sends (client : Client) : HttpRequest → Prop
  | identity : Sends client client.rootRequest
  | listing : Sends client client.listingRequest
  | mapping (index : String) : Sends client (client.mappingRequest index)
  | sample (index field : String) : Sends client (client.sampleRequest index field)

/-- A client has the URL that the text of the base stands for, and the rest of its connection. -/
theorem connect_eq_ok (hclient : connect connection = .ok client) :
    Url.parse connection.baseUrl = .ok client.url ∧
      client = ⟨client.url, connection.credentials, connection.timeout, connection.sampleSize⟩ := by
  unfold connect at hclient
  split at hclient
  · cases hclient
  · split at hclient
    next => cases hclient
    next url hurl =>
      split_ifs at hclient
      injection hclient with hclient
      subst hclient
      exact ⟨hurl, rfl⟩

/-- Every request goes to the server of the base. -/
theorem Sends.origin {request : HttpRequest} (hsends : client.Sends request) :
    request.url.scheme = client.url.scheme ∧ request.url.host = client.url.host ∧
      request.url.port = client.url.port := by
  cases hsends <;> exact ⟨rfl, rfl, rfl⟩

theorem Sends.under_iff {request : HttpRequest} (hsends : client.Sends request) :
    client.url.Under request.url ↔ client.url.trunk <+: request.url.segments := by
  obtain ⟨hscheme, hhost, hport⟩ := hsends.origin
  exact ⟨Url.Under.path, fun hpath ↦ ⟨hscheme, hhost, hport, hpath⟩⟩

/-- The root of the server is below no path but the empty one. -/
theorem prefix_rootRequest_iff (hpath : "" ∉ client.url.trunk) :
    client.url.trunk <+: client.rootRequest.url.segments ↔ client.url.trunk = [] := by
  have hroot : client.rootRequest.url.segments = [""] := rfl
  rw [hroot, List.prefix_cons_iff, or_iff_left]
  rintro ⟨rest, htrunk, -⟩
  exact hpath (by simp [htrunk])

/-- An endpoint of an index is below the base, unless the name of the index climbs. -/
theorem prefix_indexUrl_iff (hpath : "" ∉ client.url.trunk) {endpoint : String}
    (hendpoint : endpoint ∈ ["_mapping", "_search"]) (index : String) :
    client.url.trunk <+: (client.indexUrl index endpoint).segments ↔
      ¬ (Url.Climbs index ∧ Url.parent client.url.trunk ≠ client.url.trunk ∧
        client.url.trunk ≠ [endpoint]) := by
  rw [← Url.prefix_append_iff hpath client.url.scheme, indexUrl, Url.segments_child,
    List.foldl_cons, List.foldl_cons, List.foldl_nil, Url.append_endpoint hendpoint]

/-- Where the requests of a client go that is configured with a base URL whose path has no empty
segment, but for a last one. All go to the server of the base. Those about the cluster as a whole go
below the base path only if this is empty or, for the index list, begins the path of the list; those
about an index do so unless the name of the index climbs out of it. -/
theorem requests_under_iff (hclient : connect connection = .ok client)
    (hbase : Url.parse connection.baseUrl = .ok base) (hpath : "" ∉ base.trunk) :
    (∀ request, client.Sends request → request.url.scheme = base.scheme ∧
        request.url.host = base.host ∧ request.url.port = base.port) ∧
      (base.Under client.rootRequest.url ↔ base.trunk = []) ∧
      (base.Under client.listingRequest.url ↔ base.trunk <+: ["_cat", "indices"]) ∧
      (∀ index, base.Under (client.mappingRequest index).url ↔
        ¬ (Url.Climbs index ∧ Url.parent base.trunk ≠ base.trunk ∧ base.trunk ≠ ["_mapping"])) ∧
      ∀ index field, base.Under (client.sampleRequest index field).url ↔
        ¬ (Url.Climbs index ∧ Url.parent base.trunk ≠ base.trunk ∧ base.trunk ≠ ["_search"]) := by
  obtain rfl : client.url = base := Except.ok.inj ((connect_eq_ok hclient).1.symm.trans hbase)
  refine ⟨fun request hsends ↦ hsends.origin, ?_, ?_, ?_, ?_⟩
  · rw [Sends.identity.under_iff, prefix_rootRequest_iff hpath]
  · exact Sends.listing.under_iff
  · intro index
    rw [(Sends.mapping index).under_iff]
    exact prefix_indexUrl_iff hpath (by simp) index
  · intro index field
    rw [(Sends.sample index field).under_iff]
    exact prefix_indexUrl_iff hpath (by simp) index

/-- A cluster behind a path of its own. -/
def proxied : Connection := { baseUrl := "http://[::1]:9200/es/" }

def proxiedClient : Client where
  url :=
    { scheme := "http"
      host := some (.address6 [0, 0, 0, 0, 0, 0, 0, 1])
      port := some 9200
      path := .segments ["es", ""] }
  credentials := .none
  timeout := 30000
  sampleSize := 10

/-- A name may hold any mark, and two dots go nowhere; with a tab between them they climb. -/
theorem requests_under_proxied :
    connect proxied = .ok proxiedClient ∧
      Url.parse proxied.baseUrl = .ok proxiedClient.url ∧ "" ∉ proxiedClient.url.trunk ∧
      proxiedClient.url.Under (proxiedClient.mappingRequest "a/b?c#d").url ∧
      proxiedClient.url.Under (proxiedClient.mappingRequest "..").url ∧
      ¬ proxiedClient.url.Under (proxiedClient.mappingRequest ".\t.").url ∧
      ¬ proxiedClient.url.Under proxiedClient.rootRequest.url := by
  have hclient : connect proxied = .ok proxiedClient := by decide +kernel
  have hbase : Url.parse proxied.baseUrl = .ok proxiedClient.url := by decide +kernel
  have hpath : "" ∉ proxiedClient.url.trunk := by decide
  obtain ⟨-, hroot, -, hmapping, -⟩ := requests_under_iff hclient hbase hpath
  rw [hmapping, hmapping, hmapping, hroot]
  exact ⟨hclient, hbase, hpath, by decide, by decide, by decide, by decide⟩

/-- The client of a cluster behind a path asks for the index list outside of that path. -/
theorem listing_leaves_base :
    connect proxied = .ok proxiedClient ∧
      proxiedClient.Sends proxiedClient.listingRequest ∧
      proxiedClient.url.trunk = ["es"] ∧
      proxiedClient.listingRequest.url.segments = ["_cat", "indices"] ∧
      ¬ proxiedClient.url.Under proxiedClient.listingRequest.url :=
  ⟨by decide +kernel, .listing, by decide, rfl, by decide⟩

end Client
end PipedQuery
