import CreoBench.ScriptRunner
import CreoBench.Wire

/-!
# Virtual users and their requests

A virtual user takes the next spec of its script, resolves its URL, sends the
request with the cookies it holds and judges the response.  The functions here
are the parts of `_send_next_request` and `execute` between two points where
time passes or somebody else acts: a clock is read, or the client is awaited.
The URL parser and the cookie store are other libraries and stay parameters.
-/

namespace CreoBench

/-- The URL and cookie libraries. -/
structure WebLibrary (Url Jar : Type) where
  /-- `Url::parse`, or `Url::parse_with_params` where there are any. -/
  parse : String → List (String × String) → Except String Url
  setPath : Url → String → Url
  asStr : Url → String
  cookie : Jar → Url → Option (String × String)
  storeCookies : Jar → List (String × String) → Url → Jar

structure HttpResponse where
  status : UInt16
  headers : List (String × String)
  body : Option (List UInt8)
  deriving DecidableEq

inductive RequestError where
  | timeout (message : String)
  | failed (message : String)
  deriving DecidableEq

/-- The arguments of `HttpClient::send`. -/
structure HttpRequest where
  url : String
  method : HttpMethod
  headers : List (String × String)
  body : Option JsonValue
  deriving DecidableEq

inductive UrlError where
  | serviceNotFound (service : String)
  | invalidUrl (service : String) (source : String)
  deriving DecidableEq

def UrlError.text : UrlError → String
  | .serviceNotFound service => s!"service `{service}` is not in the service registry"
  | .invalidUrl service source => s!"invalid URL for service `{service}`: {source}"

inductive HttpExecuteError where
  | url (source : UrlError)
  | timeout (message : String) (timing : RequestTiming)
  | failed (message : String) (timing : RequestTiming)
  | status (code : UInt16) (timing : RequestTiming)
  | extract (source : Script.Error) (timing : RequestTiming)
  deriving DecidableEq

/-- The timing of a request that was sent. -/
def HttpExecuteError.timing : HttpExecuteError → Option RequestTiming
  | .url _ => none
  | .timeout _ timing | .failed _ timing | .status _ timing | .extract _ timing => some timing

/-- A virtual user in the loop of user requests; `jar` is the executor's. -/
structure VirtualUser (World Jar : Type) where
  id : VirtualUserId
  runner : ScriptRunner World
  jar : Jar
  serviceRegistry : ServiceRegistry

namespace VirtualUser

variable {World Url Jar : Type}

/-- What `new` and `setup` leave: the runner of a script that has sent its setup
requests. -/
def IsSetUp (id : VirtualUserId) (user : VirtualUser World Jar) : Prop :=
  user.id = id ∧ ∃ (setupSpecs userSpecs : List LuaRequestSpec) (loaded : World)
      (runner : ScriptRunner World),
    ScriptRunner.ofSpecs setupSpecs userSpecs loaded = some runner ∧
      user.runner = { runner with
        world := user.runner.world, setupCursor := user.runner.setupCursor }

/-- A script that has loaded has a request to send. -/
theorem IsSetUp.wellFormed {id : VirtualUserId} {user : VirtualUser World Jar}
    (isSetUp : user.IsSetUp id) : user.runner.WellFormed := by
  rcases isSetUp with ⟨-, setupSpecs, userSpecs, loaded, runner, made, runnerEq⟩
  unfold ScriptRunner.ofSpecs at made
  split_ifs at made with empty
  cases made
  rw [runnerEq]
  refine ⟨List.length_pos_of_ne_nil ?_, rfl⟩
  simpa using empty

def resolveUrl (web : WebLibrary Url Jar) (spec : HttpStaticRequestSpec)
    (registry : ServiceRegistry) : Except UrlError Url :=
  match registry.services.entries.find? fun entry => entry.1 = spec.service with
  | none => .error (.serviceNotFound spec.service)
  | some (_, baseUrl) =>
      match web.parse baseUrl spec.query with
      | .error source => .error (.invalidUrl spec.service source)
      | .ok url => .ok (web.setPath url spec.path)

def request (web : WebLibrary Url Jar) (user : VirtualUser World Jar) (url : Url)
    (spec : HttpStaticRequestSpec) : HttpRequest where
  url := web.asStr url
  method := spec.method
  headers := spec.headers ++ (web.cookie user.jar url).toList
  body := spec.body

def storeCookies (web : WebLibrary Url Jar) (user : VirtualUser World Jar) (url : Url) :
    Except RequestError HttpResponse → VirtualUser World Jar
  | .ok response => { user with jar := web.storeCookies user.jar response.headers url }
  | .error _ => user

/-- What `execute` makes of a response, once the measurement is finished. -/
def judge (lua : Lua World) (user : VirtualUser World Jar) (spec : HttpStaticRequestSpec)
    (response : Except RequestError HttpResponse) (timing : RequestTiming) :
    Except HttpExecuteError RequestTiming × VirtualUser World Jar :=
  match response with
  | .error (.timeout message) => (.error (.timeout message timing), user)
  | .error (.failed message) => (.error (.failed message timing), user)
  | .ok response =>
      if 400 ≤ response.status then (.error (.status response.status timing), user)
      else
        let scriptResponse : Response :=
          { status := response.status, headers := response.headers, body := response.body }
        match user.runner.runHttpExtract lua spec scriptResponse with
        | (.error source, runner) => (.error (.extract source timing), { user with runner })
        | (.ok (), runner) => (.ok timing, { user with runner })

def mapExecutionError (id : VirtualUserId) (specId : SpecId) : HttpExecuteError → Outcome
  | .timeout message timing => .timeout id specId timing (.error message)
  | .failed message timing => .failed id specId timing (.send message)
  | .status code timing => .failed id specId timing (.status code)
  | .extract source timing => .failed id specId timing (.extract source.text)
  | .url source => .dropped (some id) (.error source.text)

/-- The end of `_send_next_request`: an error takes the spec back. -/
def conclude (user : VirtualUser World Jar) (handle : RevertHandle) (specId : SpecId) :
    Except HttpExecuteError RequestTiming → Outcome × VirtualUser World Jar
  | .ok timing => (.success user.id specId timing, user)
  | .error err =>
      (mapExecutionError user.id specId err, { user with runner := user.runner.revert handle })

@[simp]
theorem storeCookies_id (web : WebLibrary Url Jar) (user : VirtualUser World Jar) (url : Url)
    (response : Except RequestError HttpResponse) :
    (user.storeCookies web url response).id = user.id := by
  cases response <;> rfl

@[simp]
theorem storeCookies_runner (web : WebLibrary Url Jar) (user : VirtualUser World Jar)
    (url : Url) (response : Except RequestError HttpResponse) :
    (user.storeCookies web url response).runner = user.runner := by
  cases response <;> rfl

@[simp]
theorem conclude_id (user : VirtualUser World Jar) (handle : RevertHandle) (specId : SpecId)
    (result : Except HttpExecuteError RequestTiming) :
    (user.conclude handle specId result).2.id = user.id := by
  cases result <;> rfl

@[simp]
theorem judge_id (lua : Lua World) (user : VirtualUser World Jar)
    (spec : HttpStaticRequestSpec) (response : Except RequestError HttpResponse)
    (timing : RequestTiming) : (user.judge lua spec response timing).2.id = user.id := by
  fun_cases judge lua user spec response timing <;> rfl

theorem runHttpExtract_runner (lua : Lua World) (runner : ScriptRunner World)
    (spec : HttpStaticRequestSpec) (response : Response) :
    runner.MovedTo (runner.runHttpExtract lua spec response).2 runner.userCursor := by
  unfold ScriptRunner.runHttpExtract
  cases spec.extract <;> exact ⟨rfl, rfl, rfl⟩

/-- Whatever a response is judged to be, it is that of a request that was sent, and
the cursor stays where it is. -/
theorem judge_spec (lua : Lua World) (user : VirtualUser World Jar)
    (spec : HttpStaticRequestSpec) (response : Except RequestError HttpResponse)
    (timing : RequestTiming) :
    ((user.judge lua spec response timing).1 = .ok timing ∨
      ∃ err, (user.judge lua spec response timing).1 = .error err ∧
        err.timing = some timing) ∧
      user.runner.MovedTo (user.judge lua spec response timing).2.runner
        user.runner.userCursor := by
  fun_cases judge lua user spec response timing
  case case1 | case2 | case3 => exact ⟨.inr ⟨_, rfl, rfl⟩, rfl, rfl, rfl⟩
  case case4 response small scriptResponse source runner extracted =>
    have moved := runHttpExtract_runner lua user.runner spec scriptResponse
    rw [extracted] at moved
    exact ⟨.inr ⟨_, rfl, rfl⟩, moved⟩
  case case5 response small scriptResponse runner extracted =>
    have moved := runHttpExtract_runner lua user.runner spec scriptResponse
    rw [extracted] at moved
    exact ⟨.inl rfl, moved⟩

end VirtualUser

end CreoBench
