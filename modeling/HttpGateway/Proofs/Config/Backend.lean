import HttpGateway.Config.Wiring
import HttpGateway.Proofs.Config.Findings
import HttpGateway.Proofs.Url.Target

/-!
# Where a checked configuration sends its commands

A check reads the URL of the backend as a URL, and a courier reads it as a request target. Where the
courier reads an absolute target, it has the scheme `http` and a host, and it reads one if the URL
is spelled with legal octets alone (`Config.courier_of_checked`). The check is more lenient: it
passes over blanks at the ends of a URL, which no target has (`Config.not_forall_courier`).
-/

namespace HttpGateway.Config

variable {config : Config}

/-- Take a configuration without findings that has routes. If its courier has an absolute endpoint,
that has the scheme `http` and a host. If the URL of the backend is spelled as an absolute target,
there is a courier with such an endpoint. -/
theorem courier_of_checked (clean : config.findings = []) (routed : config.routes ≠ []) :
    (∀ courier scheme, config.courier = .ok courier → courier.endpoint.scheme = some scheme →
      scheme = Uri.ascii "http" ∧ courier.endpoint.host ≠ []) ∧
    ∀ _ : Uri.Spelling (Text.Utf8.encode config.backend.url),
      ∃ courier, config.courier = .ok courier ∧
        courier.endpoint.scheme = some (Uri.ascii "http") ∧ courier.endpoint.host ≠ [] := by
  have sound : Url.isHttp config.backend.url = true :=
    (findings_eq_nil_iff.1 clean).backend.resolve_left routed
  have endpoint : ∀ courier scheme, config.courier = .ok courier →
      courier.endpoint.scheme = some scheme →
        scheme = Uri.ascii "http" ∧ courier.endpoint.host ≠ [] := by
    intro courier scheme made absolute
    unfold Config.courier Courier.ofUrl at made
    cases read : Uri.ofText config.backend.url with
    | error fault =>
      rw [read] at made
      cases made
    | ok uri =>
      rw [read] at made
      obtain rfl := Except.ok.inj made
      exact Uri.http_of_isHttp sound read absolute
  refine ⟨endpoint, fun spelling => ?_⟩
  obtain ⟨uri, read, absolute⟩ := Uri.read_of_spelling sound spelling
  have made : config.courier = .ok ⟨uri, config.retries⟩ := by
    unfold Config.courier Courier.ofUrl
    rw [read]
    rfl
  exact ⟨_, made, absolute, (endpoint _ _ made absolute).2⟩

/-- The courier of a configuration with one route and the URL of the backend that is not configured
has an absolute endpoint. -/
theorem courier_of_checked_local :
    let config : Config :=
      { routes := [⟨"POST", "/items", "items.create", .ok, false, [], [], ∅, none, ∅⟩] }
    config.findings = [] ∧ config.routes ≠ [] ∧
      ∃ courier, config.courier = .ok courier ∧
        courier.endpoint.scheme = some (Uri.ascii "http") ∧ courier.endpoint.host ≠ [] := by
  intro config
  have clean : config.findings = [] := by decide +kernel
  have routed : config.routes ≠ [] := List.cons_ne_nil _ _
  let spelling : Uri.Spelling (Text.Utf8.encode config.backend.url) :=
    { scheme := Uri.ascii "http"
      user := []
      place := Uri.ascii "127.0.0.1:3000"
      path := Uri.ascii "/commands"
      query := []
      fragment := []
      written := by decide +kernel
      named := by decide +kernel
      userLegal := .inl rfl
      placeFilled := by decide +kernel
      placeLegal := by decide +kernel
      pathRooted := .inr ⟨_, rfl⟩
      pathLegal := by decide +kernel
      queryLegal := .inl rfl
      fragmentLegal := .inl rfl
      short := by decide +kernel }
  exact ⟨clean, routed, (courier_of_checked clean routed).2 spelling⟩

/-- Not every configuration without findings that has routes has a courier: a check passes over a
space before the URL of the backend. -/
theorem not_forall_courier :
    ¬ ∀ config : Config, config.findings = [] → config.routes ≠ [] →
      ∃ courier, config.courier = .ok courier ∧
        courier.endpoint.scheme = some (Uri.ascii "http") ∧ courier.endpoint.host ≠ [] := by
  intro always
  let config : Config :=
    { backend := { url := " http://127.0.0.1:3000/commands" }
      routes := [⟨"POST", "/items", "items.create", .ok, false, [], [], ∅, none, ∅⟩] }
  have clean : config.findings = [] := by decide +kernel
  obtain ⟨courier, made, -⟩ := always config clean (List.cons_ne_nil _ _)
  have refused : Uri.ofText config.backend.url = .error .invalidCharacter := by decide +kernel
  unfold Config.courier Courier.ofUrl at made
  rw [refused] at made
  cases made

end HttpGateway.Config
