import HAProxyIngress.Model.Proxy

/-! The observed store, the rule registry, the controller state and the collaborators of a pass. -/

namespace HAProxyIngress.Model

abbrev Annotations := List (String × String)

/-- Modelled from the spec: annotations.GetValue is not in the repository's files. It returns
the first non-empty value found by trying the sources in the given order; the controller's
default values (set from its command-line parameters) are tried last. -/
def getValue (defaults : Annotations) (name : String) : List Annotations → String
  | [] => (defaults.lookup name).getD ""
  | a :: rest =>
    match a.lookup name with
    | some v => if v = "" then getValue defaults name rest else v
    | none => getValue defaults name rest

/-- strings.Split with a one-character separator. -/
def split (s : String) (sep : Char) : List String := (s.toList.splitOn sep).map String.mk

/-- strconv.ParseBool. -/
def parseBool : String → Option Bool
  | "1" | "t" | "T" | "TRUE" | "true" | "True" => some true
  | "0" | "f" | "F" | "FALSE" | "false" | "False" => some false
  | _ => none

inductive Err
  | api
  | certificate
  | parse
  | service
  | route
  | bindCreate (cause : Err)
  | joined
  deriving DecidableEq, Repr

def getBoolValue (value : String) : Bool × Option Err :=
  match parseBool value with
  | some b => (b, none)
  | none => (false, some .parse)

/-- Modelled from the spec: utils.Errors, whose Result is nil when no error was added. -/
def errorsResult (errs : List (Option Err)) : Option Err :=
  if errs.all Option.isNone then none else some .joined

inductive Status
  | EMPTY
  | MODIFIED
  | DELETED
  deriving DecidableEq, Repr, Inhabited

structure ServicePort where
  port : Int
  deriving DecidableEq, Repr

structure Service where
  name : String
  annotations : Annotations
  ports : List ServicePort
  deriving DecidableEq, Repr

structure Namespace where
  name : String
  services : List (String × Service)
  deriving DecidableEq, Repr

structure IngressPath where
  svcName : String
  svcPortInt : Int
  isDefaultBackend : Bool
  deriving DecidableEq, Repr, Inhabited

structure Ingress where
  ns : String
  name : String
  annotations : Annotations
  defaultBackend : Option IngressPath
  status : Status
  ingClass : String
  deriving DecidableEq, Repr, Inhabited

structure IngressClass where
  status : Status
  controller : String
  deriving DecidableEq, Repr

structure OSArgs where
  ingressClass : String
  emptyIngressClass : Bool
  deriving DecidableEq, Repr

structure Store where
  namespaces : List (String × Namespace)
  configMap : Annotations
  deriving DecidableEq, Repr

inductive Rule
  | requestRedirect (sslRedirect : Bool) (spec : String)
  | reqDeny (spec : String)
  | reqCapture (spec : String)
  | reqRateLimit (tableName : String) (spec : String)
  | reqAcceptContent
  | reqInspectDelay (timeout : Option Int)
  | reqSetVar (name scope expression condTest : String)
  | other (kind spec : String)
  deriving DecidableEq, Repr

abbrev RuleID := String

structure RuleEntry where
  frontend : String
  rule : Rule
  ingressRule : Bool
  deriving DecidableEq, Repr

/-- Modelled from the spec: the Rule Registry is not in the repository's files. It keeps rules
per frontend in insertion order, at most once per (rule, frontend), with their scope. -/
def addRule (rule : Rule) (ingressRule : Bool) (frontend : String) (reg : List RuleEntry) :
    List RuleEntry :=
  if reg.any fun e => e.frontend = frontend ∧ e.rule = rule then reg
  else reg ++ [⟨frontend, rule, ingressRule⟩]

def Registered (rule : Rule) (frontend : String) (reg : List RuleEntry) : Prop :=
  ∃ e ∈ reg, e.frontend = frontend ∧ e.rule = rule

lemma addRule_of_registered {rule : Rule} {frontend : String} {reg : List RuleEntry}
    (h : Registered rule frontend reg) (ingressRule : Bool) :
    addRule rule ingressRule frontend reg = reg := by
  obtain ⟨e, he, hf, hr⟩ := h
  simp only [addRule, List.any_eq_true, decide_eq_true_eq]
  exact if_pos ⟨e, he, hf, hr⟩

@[simp] lemma registered_addRule_self (rule : Rule) (ingressRule : Bool) (frontend : String)
    (reg : List RuleEntry) : Registered rule frontend (addRule rule ingressRule frontend reg) := by
  unfold addRule
  split_ifs with h
  · simpa [Registered] using h
  · exact ⟨_, List.mem_append_right _ (List.mem_singleton_self _), rfl, rfl⟩

lemma registered_addRule {rule : Rule} {frontend : String} {reg : List RuleEntry}
    (h : Registered rule frontend reg) (rule' : Rule) (ingressRule : Bool) (frontend' : String) :
    Registered rule frontend (addRule rule' ingressRule frontend' reg) := by
  obtain ⟨e, he, hf, hr⟩ := h
  unfold addRule
  split_ifs
  · exact ⟨e, he, hf, hr⟩
  · exact ⟨e, List.mem_append_left _ he, hf, hr⟩

lemma registered_foldl_of {rule : Rule} {frontend : String} {reg : List RuleEntry}
    (h : Registered rule frontend reg) (ingressRule : Bool) (frontend' : String) (rules : List Rule) :
    Registered rule frontend (rules.foldl (fun reg r => addRule r ingressRule frontend' reg) reg) := by
  induction rules generalizing reg with
  | nil => exact h
  | cons r rules ih => exact ih (registered_addRule h r ingressRule frontend')

lemma registered_foldl_addRule {rule : Rule} {rules : List Rule} (hr : rule ∈ rules)
    (ingressRule : Bool) (frontend : String) (reg : List RuleEntry) :
    Registered rule frontend (rules.foldl (fun reg r => addRule r ingressRule frontend reg) reg) := by
  induction rules generalizing reg with
  | nil => cases hr
  | cons r rules ih =>
    rcases List.mem_cons.1 hr with rfl | hr
    · exact registered_foldl_of (registered_addRule_self rule ingressRule frontend reg) _ _ _
    · exact ih hr _

lemma mem_addRule_of_mem {e : RuleEntry} {reg : List RuleEntry} (he : e ∈ reg) (rule : Rule)
    (ingressRule : Bool) (frontend : String) : e ∈ addRule rule ingressRule frontend reg := by
  unfold addRule
  split_ifs
  exacts [he, List.mem_append_left _ he]

lemma mem_foldl_addRule_of_mem {e : RuleEntry} {reg : List RuleEntry} (he : e ∈ reg)
    (ingressRule : Bool) (frontend : String) (rules : List Rule) :
    e ∈ rules.foldl (fun reg r => addRule r ingressRule frontend reg) reg := by
  induction rules generalizing reg with
  | nil => exact he
  | cons r rs ih => exact ih (mem_addRule_of_mem he _ _ _)

lemma foldl_addRule_of_registered {rules : List Rule} {frontend : String} {reg : List RuleEntry}
    (ingressRule : Bool) (h : ∀ r ∈ rules, Registered r frontend reg) :
    rules.foldl (fun reg r => addRule r ingressRule frontend reg) reg = reg := by
  induction rules with
  | nil => rfl
  | cons r rules ih =>
    rw [List.foldl_cons, addRule_of_registered (h r (List.mem_cons_self _ _))]
    exact ih fun r' hr' => h r' (List.mem_cons_of_mem _ hr')

def deleteFrontend (frontend : String) (reg : List RuleEntry) : List RuleEntry :=
  reg.filter (·.frontend ≠ frontend)

structure ControllerCfg where
  frontHTTP : String
  frontHTTPS : String
  frontSSL : String
  backSSL : String
  https : Bool
  sslPassthrough : Bool
  activeBackends : List String
  rateLimitTables : List String
  haproxyRules : List RuleEntry
  http_ne_https : frontHTTP ≠ frontHTTPS
  http_ne_ssl : frontHTTP ≠ frontSSL
  https_ne_ssl : frontHTTPS ≠ frontSSL
  http_ne_empty : frontHTTP ≠ ""
  https_ne_empty : frontHTTPS ≠ ""
  ssl_ne_empty : frontSSL ≠ ""
  backSSL_ne_empty : backSSL ≠ ""
  deriving DecidableEq

/-- Modelled from the spec: ControllerCfg.Init is not in the repository's files. The controller
starts with frontends `http`, `https` and `ssl`, the chaining backend `ssl`, offload and
passthrough off and empty tables. -/
def ControllerCfg.init : ControllerCfg where
  frontHTTP := "http"
  frontHTTPS := "https"
  frontSSL := "ssl"
  backSSL := "ssl"
  https := false
  sslPassthrough := false
  activeBackends := []
  rateLimitTables := []
  haproxyRules := []
  http_ne_https := by decide
  http_ne_ssl := by decide
  https_ne_ssl := by decide
  http_ne_empty := by decide
  https_ne_empty := by decide
  ssl_ne_empty := by decide
  backSSL_ne_empty := by decide

inductive SecretType
  | CA_CERT
  deriving DecidableEq, Repr

structure SecretCtx where
  defaultNS : String
  secretPath : String
  secretType : SecretType
  deriving DecidableEq, Repr

inductive CertError
  | notFound
  | other
  deriving DecidableEq, Repr

/-- Modelled from the spec: the certificate manager is not in the repository's files. Within a
pass it answers FrontendCertsEnabled, Updated and HandleTLSSecret, whose failure on a missing
secret is told apart from every other failure. -/
structure Certificates where
  frontendCertsEnabled : Bool
  updated : Bool
  handleTLSSecret : SecretCtx → Except CertError String

/-- Modelled from the spec: what service.NewCtx builds for one path, with the answers of
HandleBackend and HandleEndpoints. -/
structure SvcCtx where
  status : Status
  service : Service
  handleBackend : Bool × String × Option Err
  handleEndpoints : Bool

structure Route where
  host : String
  path : IngressPath
  haproxyRules : List RuleID
  backendName : String
  sslPassthrough : Bool

/-- Modelled from the spec: one frontend annotation handler and the rules it appends. -/
structure Handler where
  name : String
  process : String → List Rule × Option Err

/-- Modelled from the spec: the collaborators of the core that are not in the repository's
files, as they answer within one pass. -/
structure Env where
  store : Store
  defaults : Annotations
  certs : Certificates
  newCtx : Ingress → Option IngressPath → Bool → Except Err SvcCtx
  addHostPathRoute : Route → Option Err
  addCustomRoute : Route → String → Bool × Option Err
  frontendAnnotations : Ingress → List Handler
  getID : Rule → RuleID
  parseTime : String → Option Int
  sniMapPath : String

end HAProxyIngress.Model
