import Mathlib.Data.Multiset.AddSub
import ApiCenter.Library.Urls
import ApiCenter.Model.ExternalController
import ApiCenter.Proofs.ExternalCalls

namespace ApiCenter.Proofs.ExternalRoute
open Library ApiCenter.Library.Runs ApiCenter.Library.Urls ExternalController

/-- The part of a URL before its query. -/
def pathname (url : String) : String := String.ofList (url.toList.takeWhile (· ≠ '?'))

/-- The query of a URL, without the question mark. -/
def queryString (url : String) : String :=
  String.ofList ((url.toList.dropWhile (· ≠ '?')).drop 1)

/-- The query of a URL up to its fragment, as it is sent. -/
def sentQuery (url : String) : String := String.ofList (queryPart url.toList)

/-- The segments of a path, without its query. -/
def segments (path : String) : List (List Char) := ((pathname path).toList.drop 1).splitOn '/'

/-- The URL of a request that goes out: the segments of its path, and its parameters. -/
structure OutgoingUrl where
  path : List (List Char)
  parameters : Multiset (String × String)

/-- An HTTP client, as far as the URLs of its requests go: the characters it encodes in a path,
the path of a base URL that others can be joined with, and the URL of a request. -/
structure Axios where
  set : PercentEncodeSet
  basePath : String → Option (List (List Char))
  target : String → AxiosRequestConfig → Option OutgoingUrl

/-- What is documented of the client. A URL that starts with one slash is joined with the base,
read as URLs are, and given the parameters of the request. With two slashes it is taken for a whole
URL, and has no scheme. -/
structure Axios.Documented (axios : Axios) (parse : String → List (String × String)) : Prop where
  base : ∀ baseURL path, axios.basePath baseURL = some path → ∀ s ∈ path, Normal axios.set s
  joined : ∀ baseURL base (cfg : AxiosRequestConfig) rest, axios.basePath baseURL = some base →
    cfg.url.toList = '/' :: rest → rest.head? ≠ some '/' →
    axios.target baseURL cfg = some
      { path := resolve axios.set base rest
        parameters := ↑(parse (sentQuery cfg.url)) + ↑cfg.params }
  whole : ∀ baseURL (cfg : AxiosRequestConfig) rest, cfg.url.toList = '/' :: '/' :: rest →
    axios.target baseURL cfg = none

/-- The request that goes out is for `path` at the API, with the parameters `path` was sent
with. -/
structure ArrivesUnchanged (axios : Axios) (parse : String → List (String × String))
    (baseURL path : String) (cfg : AxiosRequestConfig) : Prop where
  sent : ∃ base url, axios.basePath baseURL = some base ∧ axios.target baseURL cfg = some url ∧
    url.path = base ++ segments path ∧ url.parameters = ↑(parse (queryString path))

/-- What a path needs to arrive: a base it can be joined with, one slash at its start, segments that
stand for themselves, and no parameters. -/
structure Joinable (axios : Axios) (parse : String → List (String × String))
    (baseURL path : String) : Prop where
  base : (axios.basePath baseURL).isSome
  relative : path.toList[1]? ≠ some '/'
  normal : ∀ s ∈ segments path, Normal axios.set s
  noParameters : parse (sentQuery path) = []

/-- The request of `callExternal` as it comes to `proxyCall`. -/
structure Received (parse : String → List (String × String)) (name path : String)
    (req : HandledRequest) : Prop where
  originalUrl : ∃ token, req.originalUrl = (TribeClient.callExternal token name path).url
  query : req.query = parse (queryString req.originalUrl)

/-- The service of a process after any calls, answers and resets. -/
def running (config : ExternalConfig) (as : List ExternalAction) : ExternalService :=
  (final ExternalCalls.step (.start config) as).service

theorem get?_buildExternalApis (config : ExternalConfig) (name : String) :
    (buildExternalApis config).get? name =
      if name = "geofencing" then some (createGeofencingApi config)
      else if name = "geolocation" then some (createGeolocationApi config)
      else none := by
  simp [buildExternalApis, PlainObject.get?_set]

theorem plain_of_all {name : String}
    (h : (name.toList.all fun c => !patternCharacters.contains c) = true) :
    ∀ c ∈ name.toList, c ∉ patternCharacters := by
  intro c hc
  have hplain := List.all_eq_true.mp h c hc
  simpa using hplain

/-- The configured names stand for themselves in a regular expression. -/
theorem plain_of_configured {config : ExternalConfig} {name : String}
    (h : ((buildExternalApis config).get? name).isSome) :
    ∀ c ∈ name.toList, c ∉ patternCharacters := by
  rw [get?_buildExternalApis] at h
  split at h
  · rename_i hname
    rw [hname]
    exact plain_of_all rfl
  · split at h
    · rename_i hname
      rw [hname]
      exact plain_of_all rfl
    · cases h

/-- The URL of `callExternal` is the route of the API, and then the path. -/
theorem callExternal_url (token name path : String) :
    (TribeClient.callExternal token name path).url = s!"/api/v1/external/{name}" ++ path := rfl

/-- What the SDK puts in front of a path is what `proxyCall` takes off it. -/
theorem downstreamPath_callExternal (name : PlainName) (token : String) {path : String}
    (h : path.toList.head? = some '/') :
    downstreamPath name (TribeClient.callExternal token name.text path).url = path := by
  obtain ⟨rest, hrest⟩ := List.head?_eq_some_iff.mp h
  have hpath : "/" ++ String.ofList rest = path := by
    rw [← String.toList_inj, String.toList_append, hrest]
    simp
  rw [callExternal_url]
  unfold downstreamPath
  generalize s!"/api/v1/external/{name.text}" = route
  simp only [String.toList_append, hrest]
  rw [if_pos (List.isPrefixOf_iff_prefix.mpr (List.prefix_append _ _)), List.drop_left]
  exact hpath

/-- Neither the route nor the name of an API ends the path of the URL. -/
theorem queryString_callExternal (name : PlainName) (token path : String) :
    queryString (TribeClient.callExternal token name.text path).url = queryString path := by
  have hroute : ∀ c ∈ s!"/api/v1/external/{name.text}".toList, (c ≠ '?') := by
    intro c hc
    rw [show s!"/api/v1/external/{name.text}" = "/api/v1/external/" ++ name.text from rfl,
      String.toList_append] at hc
    rcases List.mem_append.mp hc with hc | hc
    · intro heq
      subst heq
      revert hc
      decide
    · intro heq
      subst heq
      exact name.plain '?' hc (by decide)
  rw [queryString, callExternal_url, String.toList_append,
    List.dropWhile_append_of_pos (by simpa using hroute), queryString]

/-- The client is called with the path as it was sent, and has its parameters beside it. -/
theorem proxyCall_sent {parse : String → List (String × String)} {s : ExternalService}
    {name : PlainName} {req : HandledRequest} {cfg : AxiosRequestConfig} (hs : s.Connected)
    (h : path.toList.head? = some '/') (hr : Received parse name.text path req)
    (hsent : (proxyCall s name req now).2 = .ok cfg) :
    cfg.url = path ∧ cfg.params = parse (queryString path) := by
  obtain ⟨⟨token, hurl⟩, hquery⟩ := hr
  have hpath : downstreamPath name req.originalUrl = path := by
    rw [hurl]
    exact downstreamPath_callExternal name token h
  have hne : path ≠ "" := by
    intro hempty
    subst hempty
    cases h
  have hcfg := ExternalService.beginCall_sent hs hsent
  constructor
  · rw [hcfg]
    simp [ExternalService.axiosCfg, callOptions, hpath, hne]
  · rw [hcfg, ← queryString_callExternal name token, ← hurl]
    exact hquery

theorem segments_eq {rest : List Char} (h : path.toList = '/' :: rest) :
    segments path = (rest.takeWhile (· ≠ '?')).splitOn '/' := by
  unfold segments pathname
  rw [String.toList_ofList, h]
  rfl

/-- A call to a configured API that is sent to it arrives as the client sent it exactly when its
path can be joined with the base of the API and has no query parameters. -/
theorem arrives_unchanged_iff (axios : Axios) (parse : String → List (String × String))
    (hax : axios.Documented parse) (config : ExternalConfig) (as : List ExternalAction)
    (name path : String) (req : HandledRequest) (now : Nat) (cfg : AxiosRequestConfig)
    (hc : ((buildExternalApis config).get? name).isSome) (h : path.toList.head? = some '/')
    (hr : Received parse name path req)
    (hsent : (proxyCall (running config as) ⟨name, plain_of_configured hc⟩ req now).2 = .ok cfg) :
    ∃ client, (running config as).clients.lookup name = some client ∧
      (ArrivesUnchanged axios parse client.baseURL path cfg ↔
        Joinable axios parse client.baseURL path) := by
  have hs := ExternalCalls.reachable_connected config as
  obtain ⟨client, hclient⟩ := ExternalService.beginCall_client hsent
  refine ⟨client, hclient, ?_⟩
  obtain ⟨hurl, hparams⟩ := proxyCall_sent hs h hr hsent
  obtain ⟨rest, hrest⟩ := List.head?_eq_some_iff.mp h
  have hsecond : path.toList[1]? = rest.head? := by
    rw [hrest, List.getElem?_cons_succ, List.head?_eq_getElem?]
  constructor
  · rintro ⟨base, url, hbase, htarget, hpath, hparameters⟩
    have hrel : rest.head? ≠ some '/' := by
      intro hslash
      obtain ⟨more, hmore⟩ := List.head?_eq_some_iff.mp hslash
      rw [hax.whole client.baseURL cfg more (by rw [hurl, hrest, hmore])] at htarget
      cases htarget
    rw [hax.joined client.baseURL base cfg rest hbase (by rw [hurl, hrest]) hrel] at htarget
    obtain rfl := Option.some.inj htarget
    refine ⟨by rw [hbase]; rfl, by rwa [hsecond], ?_, ?_⟩
    · rw [segments_eq hrest] at hpath ⊢
      exact (resolve_eq_append_iff (hax.base client.baseURL base hbase)).mp hpath
    · rw [hurl, hparams] at hparameters
      exact (Multiset.coe_eq_zero _).mp
        (Multiset.add_left_inj.mp (hparameters.trans (Multiset.zero_add _).symm))
  · rintro ⟨hbase, hrel, hnormal, hnone⟩
    obtain ⟨base, hbase⟩ := Option.isSome_iff_exists.mp hbase
    have htarget := hax.joined client.baseURL base cfg rest hbase (by rw [hurl, hrest])
      (by rwa [hsecond] at hrel)
    refine ⟨base, _, hbase, htarget, ?_, ?_⟩
    · rw [segments_eq hrest] at hnormal ⊢
      exact (resolve_eq_append_iff (hax.base client.baseURL base hbase)).mpr hnormal
    · rw [hurl, hparams, hnone]
      exact Multiset.zero_add _

/-- The parameters of a query, split at its ampersands and their first equals signs. -/
def splitQuery (query : String) : List (String × String) :=
  ((query.toList.splitOn '&').filter (· ≠ [])).map fun parameter =>
    (String.ofList (parameter.takeWhile (· ≠ '=')),
      String.ofList ((parameter.dropWhile (· ≠ '=')).drop 1))

/-- A request of the SDK, as the gateway reads it. -/
def receivedFor (path : String) : HandledRequest where
  method := "GET"
  path := "/api/v1/external/geolocation/lookup"
  authorization := some "Bearer t"
  xTribeId := none
  ip := some "10.0.0.1"
  remoteAddress := none
  originalUrl := (TribeClient.callExternal "t" "geolocation" path).url
  query := splitQuery (queryString (TribeClient.callExternal "t" "geolocation" path).url)

theorem received_receivedFor (path : String) :
    Received splitQuery "geolocation" path (receivedFor path) where
  originalUrl := ⟨"t", by rw [receivedFor]⟩
  query := by rw [receivedFor]

/-- The client, for base URLs that are a scheme and a host. -/
def plainAxios (parse : String → List (String × String)) : Axios where
  set := pathSet
  basePath baseURL :=
    if "https://".toList.isPrefixOf baseURL.toList &&
        (baseURL.toList.drop 8).all fun c => c.isAlphanum || c = '.' then some [] else none
  target _ cfg :=
    match cfg.url.toList with
    | '/' :: '/' :: _ => none
    | '/' :: rest => some
        { path := resolve pathSet [] rest
          parameters := ↑(parse (sentQuery cfg.url)) + ↑cfg.params }
    | _ => none

theorem plainAxios_documented (parse : String → List (String × String)) :
    (plainAxios parse).Documented parse where
  base baseURL path h := by
    simp only [plainAxios, Option.ite_none_right_eq_some, Option.some.injEq] at h
    obtain ⟨-, rfl⟩ := h
    exact nofun
  joined baseURL base cfg rest h hurl hrel := by
    simp only [plainAxios, Option.ite_none_right_eq_some, Option.some.injEq] at h
    obtain ⟨-, rfl⟩ := h
    simp only [plainAxios, hurl]
    split
    · rename_i heq
      rw [(List.cons.inj heq).2] at hrel
      exact absurd rfl hrel
    · rename_i heq
      rw [(List.cons.inj heq).2]
    · rename_i hne
      exact absurd rfl (hne rest)
  whole baseURL cfg rest hurl := by simp only [plainAxios, hurl]

theorem arrives_unchanged_health : ∃ cfg,
    ArrivesUnchanged (plainAxios splitQuery) splitQuery "https://api.ipgeolocation.io" "/health"
      cfg := by
  obtain ⟨client, hclient, hiff⟩ := arrives_unchanged_iff (plainAxios splitQuery) splitQuery
    (plainAxios_documented splitQuery) {} [] "geolocation" "/health" (receivedFor "/health") 0 _
    rfl rfl (received_receivedFor "/health") rfl
  obtain rfl := Option.some.inj hclient
  exact ⟨_, hiff.mpr ⟨rfl, by decide, by decide, by decide⟩⟩

theorem query_is_doubled :
    ¬ ∀ (axios : Axios) (parse : String → List (String × String)), axios.Documented parse →
      ∀ (config : ExternalConfig) (as : List ExternalAction) (name path : String)
        (req : HandledRequest) (now : Nat) (cfg : AxiosRequestConfig) (client : ExternalClient)
        (hc : ((buildExternalApis config).get? name).isSome),
      path.toList.head? = some '/' → Received parse name path req →
      (running config as).clients.lookup name = some client →
      (proxyCall (running config as) ⟨name, plain_of_configured hc⟩ req now).2 = .ok cfg →
      ArrivesUnchanged axios parse client.baseURL path cfg := by
  intro h
  have hall := h (plainAxios splitQuery) splitQuery (plainAxios_documented splitQuery) {} []
    "geolocation" "/lookup?ip=8.8.8.8" (receivedFor "/lookup?ip=8.8.8.8") 0 _ _ rfl rfl
    (received_receivedFor _) rfl rfl
  obtain ⟨base, url, hbase, htarget, hpath, hparameters⟩ := hall
  obtain rfl := Option.some.inj htarget
  revert hparameters
  decide

end ApiCenter.Proofs.ExternalRoute
