import ApiCenter.Model.Upstream
import ApiCenter.Proofs.ExternalRoute
import ApiCenter.Proofs.Isolation
import ApiCenter.Proofs.ProxyTargets
import ApiCenter.Proofs.Showback

namespace ApiCenter

open Library ApiCenter.Library.Runs Proofs Proofs.SdkTokens

/-- A path that is passed on as it is: characters that need no escape in a URL, and no empty
segment. -/
structure PlainPath (path : String) : Prop where
  chars : ∀ c ∈ path.toList, c.isAlphanum ∨ c ∈ "-._~!$&()*+,;=:/?%".toList
  segments : (path.toList.takeWhile (· ≠ '?')).IsChain fun a b => a ≠ '/' ∨ b ≠ '/'

/-- The headers that the proxy middleware and the tracing write on their own account: `changeOrigin`
rewrites the first. -/
def libraryHeaders : List String :=
  ["host", "connection", "content-length", "transfer-encoding", "traceparent", "tracestate",
    "baggage"]

/-- What is documented of the libraries. A route of a fixed text, one parameter and a star finds the
segment of a URL that is in the place of the parameter, and finds none where a URL begins otherwise,
letters counting in either case. The middleware cuts off what the rule for the path finds, hands the
headers of the client to its callback but for its own, unless the client expects to be told to go
on, and sends what it gets back. -/
structure ProxyLibraries.Documented (lib : ProxyLibraries) : Prop where
  found : ∀ (fixed name url : String) (segment rest : List Char),
    (∀ c ∈ fixed.toList, c.isAlphanum ∨ c = '/') → (∀ c ∈ name.toList, c.isAlphanum) →
    segment ≠ [] → (∀ c ∈ segment, c.isAlphanum ∨ c = '-') →
    url.toList = fixed.toList ++ '/' :: (segment ++ '/' :: rest) →
    lib.param (fixed ++ "/:" ++ name ++ "/*") url = some (String.ofList segment)
  begins : ∀ fixed name url target : String, (∀ c ∈ fixed.toList, c.isAlphanum ∨ c = '/') →
    (∀ c ∈ name.toList, c.isAlphanum) →
    lib.param (fixed ++ "/:" ++ name ++ "/*") url = some target →
    (fixed.toList ++ ['/']).map Char.toLower <+: url.toList.map Char.toLower
  sends : ∀ (m : Middleware) (callback : Table String String → Option (Table String String))
    (text path url : String) (headers : Table String String), m.pathRewrite = "^" ++ text →
    (∀ c ∈ text.toList, c ∉ patternCharacters) → url = text ++ path → PlainPath path →
    headers.lookup "expect" = none →
    ∃ own : Table String String,
      (∀ name, name ∉ libraryHeaders → own.lookup name = headers.lookup name) ∧
      ∀ given, callback own = some given →
        lib.send m callback url headers = some ⟨m.target, path, given⟩

namespace ProxyHandler

variable {id : String}

end ProxyHandler

namespace Proofs.SdkDelivery

open Isolation Mediation ProxyTargets

variable {g : Gateway} {ns : ServiceType} {id target : String} {m : Middleware}

/-- What an action leaves of a handler: its path, and its middleware instances, with none added but
one created for the base URL registered right then. -/
structure Keeps (g : Gateway) (ns : ServiceType) (after : ProxyHandler) : Prop where
  pathPrefix : after.pathPrefix = (g.handler ns).pathPrefix
  cached : ∀ id m, after.proxyCache.lookup id = some m →
    (g.handler ns).proxyCache.lookup id = some m ∨
      ∃ url, baseUrls g.registry.services id = some url ∧ m = (g.handler ns).createProxy id url

/-- At some time of the run, `url` was the base URL registered for `id`. -/
def Offered (r : RegistryService) (run : List GatewayAction) (id url : String) : Prop :=
  ∃ before after, run = before ++ after ∧
    baseUrls (final Gateway.step { registry := r } before).registry.services id = some url

theorem Offered.append {r : RegistryService} {run : List GatewayAction} {url : String}
    (h : Offered r run id url) (rest : List GatewayAction) : Offered r (run ++ rest) id url := by
  obtain ⟨before, after, rfl, hurl⟩ := h
  exact ⟨before, after ++ rest, List.append_assoc _ _ _, hurl⟩

/-- A call names a service as the registry does, and gives a path from its root. -/
def Proper (c : SdkCall) : Prop :=
  ∀ ns id path, c.target? = some (ns, id, path) →
    matchesServiceId id = true ∧ path.toList.head? = some '/' ∧ PlainPath path

variable {lib : ProxyLibraries}

end Proofs.SdkDelivery

end ApiCenter
