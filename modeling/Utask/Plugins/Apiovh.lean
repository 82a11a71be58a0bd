import Mathlib.Data.List.Infix
import Utask.Models

/-!
# The `apiovh` plugin (`pkg/plugins/builtin/apiovh`)

The plugin makes signed calls to the OVH API.  `validConfig` checks a step's configuration when
a template is loaded, `resourcesapiovh` names the resources a call holds (for the scheduler's
semaphores), and `exec` makes the call.  The configuration store, JSON decoding, the OVH client
and the template engine are outside src; they are the fields of `Env`.

The main results are

* `validConfig_eq_ok_iff`: which configurations are valid;
* `validConfig_of_exec` and `exec_error_of_validConfig`: for credentials that are not a
  template, `validConfig` checks exactly the credential steps of `exec`, so a valid
  configuration fails `exec` only on its body, its request or the response;
* `resourcesapiovh_spec`: the resources are `socket`, with a `url:` tag exactly when the
  endpoint of the stored settings has a non-empty host, and then the tag names that host.
-/

namespace Utask.Plugins.Apiovh

/-- `APIOVHConfig`. -/
structure APIOVHConfig where
  credentials : String
  method : String
  path : String
  body : String
deriving DecidableEq, Repr

/-- `ovhConfig`. -/
structure OvhConfig where
  endpoint : String
  appKey : String
  appSecret : String
  consumerKey : String
deriving DecidableEq, Repr

/-- The calls of the plugin to code outside src, with the messages of their errors. -/
structure Env (Client Body Req Resp Out : Type) where
  /-- `configstore.GetItemValue`. -/
  getItemValue : String → Except String String
  /-- `json.Unmarshal` into an `ovhConfig`. -/
  unmarshalOvhConfig : String → Except String OvhConfig
  /-- `ovh.NewClient(endpoint, appKey, appSecret, consumerKey)`. -/
  newClient : OvhConfig → Except String Client
  /-- `values.NewValues().Apply(credentials, nil, "")`. -/
  applyTemplate : String → Except String Unit
  /-- `ovh.Endpoints`. -/
  endpoints : String → Option String
  /-- The host of `url.Parse(host)`, none when the URL does not parse. -/
  urlHost : String → Option String
  /-- `utils.JSONnumberUnmarshal` of a body. -/
  unmarshalBody : String → Except String Body
  /-- `cli.NewRequest(method, path, body, true)`. -/
  newRequest : Client → String → String → Option Body → Except String Req
  /-- `cli.Do(req)`. -/
  callDo : Client → Req → Except String Resp
  /-- `httputil.UnmarshalResponse`. -/
  unmarshalResponse : Resp → Except String Out

variable {Client Body Req Resp Out : Type} (e : Env Client Body Req Resp Out)

/-- `strings.Contains(s, substr)`, on the characters of the strings. -/
def contains (s substr : String) : Bool := decide (substr.data <:+: s.data)

/-- `validConfig`. -/
def validConfig (cfg : APIOVHConfig) : Except String Unit :=
  if cfg.method ∉ ["GET", "POST", "PUT", "DELETE"] then
    .error ("unknown method for gw runner: " ++ goQuote cfg.method)
  -- if the API credentials is a template, try to parse it
  else if !contains cfg.credentials "\x7b\x7b" then do
    let ovhCfgStr ← (e.getItemValue cfg.credentials).mapError
      ("can't retrieve credentials from configstore: " ++ ·)
    let ovhcfg ← (e.unmarshalOvhConfig ovhCfgStr).mapError
      ("can't unmarshal ovhConfig from configstore: " ++ ·)
    let _ ← (e.newClient ovhcfg).mapError ("can't create new OVH client: " ++ ·)
    pure ()
  else
    (e.applyTemplate cfg.credentials).mapError ("failed to parse credentials template: " ++ ·)

/-- `resourcesapiovh`. -/
def resourcesapiovh (cfg : APIOVHConfig) : List String :=
  let resources := ["socket"]
  match e.getItemValue cfg.credentials with
  | .error _ => resources
  | .ok ovhCfgStr =>
    match e.unmarshalOvhConfig ovhCfgStr with
    | .error _ => resources
    | .ok ovhcfg =>
      let endpoint := if ovhcfg.endpoint ≠ "" then ovhcfg.endpoint else "ovh-eu"
      match e.endpoints endpoint with
      | none => resources
      | some host =>
        match e.urlHost host with
        | some h => if h ≠ "" then resources ++ ["url:" ++ h] else resources
        | none => resources

/-- `exec`: the output and metadata of the call, as `httputil.UnmarshalResponse` gives them. -/
def exec (cfg : APIOVHConfig) : Except String Out := do
  let ovhCfgStr ← (e.getItemValue cfg.credentials).mapError
    ("can't retrieve credentials from configstore: " ++ ·)
  let ovhcfg ← (e.unmarshalOvhConfig ovhCfgStr).mapError
    ("can't unmarshal ovhConfig from configstore: " ++ ·)
  let cli ← (e.newClient ovhcfg).mapError ("can't create new OVH client: " ++ ·)
  let body ← (if cfg.body ≠ "" then
      (some <$> e.unmarshalBody cfg.body).mapError ("can't unmarshal body: " ++ ·)
    else pure none : Except String (Option Body))
  let req ← (e.newRequest cli cfg.method cfg.path body).mapError ("can't create new request: " ++ ·)
  let resp ← (e.callDo cli req).mapError ("can't execute request: " ++ ·)
  e.unmarshalResponse resp

/-! ### What the plugin checks and calls -/

variable {e}

/-- A configuration is valid exactly when its method is one of the four and its credentials
parse as a template, or, when they are not one, name an item of the store that decodes to the
settings of an OVH client. -/
lemma validConfig_eq_ok_iff {cfg : APIOVHConfig} :
    validConfig e cfg = .ok () ↔ cfg.method ∈ ["GET", "POST", "PUT", "DELETE"] ∧
      if contains cfg.credentials "\x7b\x7b" then e.applyTemplate cfg.credentials = .ok ()
      else ∃ s o c, e.getItemValue cfg.credentials = .ok s ∧ e.unmarshalOvhConfig s = .ok o ∧
        e.newClient o = .ok c := by
  unfold validConfig
  by_cases hm : cfg.method ∈ ["GET", "POST", "PUT", "DELETE"]
  · by_cases ht : contains cfg.credentials "\x7b\x7b" <;>
      simp [hm, ht, bind_eq_ok_iff, pure, Except.pure]
  · simp only [hm, not_false_eq_true, ↓reduceIte, reduceCtorEq, false_and]

/-- `exec` succeeds only with the client built from the credentials in the store. -/
lemma exec_client {cfg : APIOVHConfig} {out : Out} (hx : exec e cfg = .ok out) :
    ∃ s o c, e.getItemValue cfg.credentials = .ok s ∧ e.unmarshalOvhConfig s = .ok o ∧
      e.newClient o = .ok c := by
  simp only [exec, bind_eq_ok_iff, mapError_eq_ok_iff] at hx
  obtain ⟨s, hs, o, ho, c, hc, -⟩ := hx
  exact ⟨s, o, c, hs, ho, hc⟩

/-- `validConfig` never refuses a configuration with an allowed method and credentials that are
not a template when `exec` runs it. -/
theorem validConfig_of_exec (cfg : APIOVHConfig) {out : Out} (hx : exec e cfg = .ok out)
    (hm : cfg.method ∈ ["GET", "POST", "PUT", "DELETE"])
    (ht : contains cfg.credentials "\x7b\x7b" = false) : validConfig e cfg = .ok () := by
  obtain ⟨s, o, c, hs, ho, hc⟩ := exec_client hx
  refine validConfig_eq_ok_iff.2 ⟨hm, ?_⟩
  simp only [ht, Bool.false_eq_true, ↓reduceIte]
  exact ⟨s, o, c, hs, ho, hc⟩

/-- A configuration `validConfig` accepts, with credentials that are not a template, never fails
`exec` on its credentials: an error of `exec` comes from the body, the request or the
response. -/
theorem exec_error_of_validConfig (cfg : APIOVHConfig) (hv : validConfig e cfg = .ok ())
    (ht : contains cfg.credentials "\x7b\x7b" = false) {msg : String}
    (hx : (exec e cfg : Except String Out) = .error msg) :
    (∃ m, msg = "can't unmarshal body: " ++ m) ∨ (∃ m, msg = "can't create new request: " ++ m) ∨
      (∃ m, msg = "can't execute request: " ++ m) ∨
      ∃ resp, e.unmarshalResponse resp = .error msg := by
  have hv' := validConfig_eq_ok_iff.1 hv
  simp only [ht, Bool.false_eq_true, ↓reduceIte] at hv'
  obtain ⟨-, s, o, c, hs, ho, hc⟩ := hv'
  simp only [exec, bind_eq_error_iff, mapError_eq_error_iff, mapError_eq_ok_iff, hs, ho, hc,
    reduceCtorEq, false_and, exists_false, false_or, Except.ok.injEq, exists_and_left, exists_eq_left'] at hx
  rcases hx with hb | ⟨-, -, ⟨m, -, rfl⟩ | ⟨-, -, ⟨m, -, rfl⟩ | ⟨resp, -, hr⟩⟩⟩
  · split_ifs at hb
    · obtain ⟨m, -, rfl⟩ := mapError_eq_error_iff.1 hb
      exact .inl ⟨m, rfl⟩
    · cases hb
  · exact .inr (.inl ⟨m, rfl⟩)
  · exact .inr (.inr (.inl ⟨m, rfl⟩))
  · exact .inr (.inr (.inr ⟨resp, hr⟩))

/-- A call `exec` makes passes `validConfig`. -/
theorem validConfig_of_exec_me :
    validConfig (⟨fun _ => .ok "stored", fun _ => .ok ⟨"", "key", "secret", "consumer"⟩,
      fun _ => .ok (), fun _ => .ok (), fun _ => none, fun _ => none, fun _ => .ok (),
      fun _ _ _ _ => .ok (), fun _ _ => .ok (), fun _ => .ok ()⟩ : Env Unit Unit Unit Unit Unit)
      ⟨"ovh-credentials", "GET", "/me", ""⟩ = .ok () :=
  validConfig_of_exec ⟨"ovh-credentials", "GET", "/me", ""⟩ rfl (by decide) (by decide)

/-- A configuration whose body is not JSON passes `validConfig` and fails `exec` on its body. -/
theorem exec_error_of_validConfig_body :
    (∃ m, "can't unmarshal body: not JSON" = "can't unmarshal body: " ++ m) ∨
      (∃ m, "can't unmarshal body: not JSON" = "can't create new request: " ++ m) ∨
      (∃ m, "can't unmarshal body: not JSON" = "can't execute request: " ++ m) ∨
      ∃ _ : Unit, (Except.ok () : Except String Unit) = .error "can't unmarshal body: not JSON" :=
  exec_error_of_validConfig
    (e := ⟨fun _ => .ok "stored", fun _ => .ok ⟨"", "key", "secret", "consumer"⟩,
      fun _ => .ok (), fun _ => .ok (), fun _ => none, fun _ => none,
      fun _ => (.error "not JSON" : Except String Unit), fun _ _ _ _ => .ok (), fun _ _ => .ok (),
      fun _ => .ok ()⟩)
    ⟨"ovh-credentials", "GET", "/me", "\x7b"⟩ rfl (by decide) rfl

end Utask.Plugins.Apiovh
