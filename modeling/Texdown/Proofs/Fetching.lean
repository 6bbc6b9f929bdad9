import Texdown.Web.Fetch

/-!
# Fetches

What a fetch asks for and what it keeps, for any web: the requests along a chain of pointers from one
server to the next, which may come back to where it was, and the pieces of the last body against the limit.
How a client writes the URLs of its requests is left open. It checks each of them before it is asked for, and
follows no more pointers than it may.

Results:
* `check_eq_ok_iff`: the URLs that pass are the allowed ones.
* `receive_eq_ok_iff`: pieces within the limit come out as one.
* `follow_eq_ok_iff`: the requests are those along the chain.
* `fetch_keeps_policy`: a fetch makes few requests, all for allowed URLs, and gives an accepted body as
  it is.
-/
namespace Texdown.Web

/-! ## Checks -/

/-- A URL of the web that names a host, over a secure connection if that is required. -/
def Allowed (requireHttps : Bool) (t : Text) : Prop :=
  ∃ u, Url.read t = .ok u ∧
    (u.scheme = "https".toList ∨ requireHttps = false ∧ u.scheme = "http".toList) ∧ u.host ≠ []

theorem refusal?_eq_none_iff_scheme {requireHttps : Bool} {t : Text} {u : Url} :
    refusal? requireHttps t u = none ↔
      (u.scheme = "https".toList ∨ requireHttps = false ∧ u.scheme = "http".toList) ∧ u.host ≠ [] := by
  rw [refusal?_eq_none_iff, ← and_assoc]
  refine and_congr_left fun _ => ?_
  have hne : "http".toList ≠ "https".toList := by decide
  simp only [Url.isRemote, Url.isSecure, Bool.or_eq_true, beq_iff_eq]
  cases requireHttps with
  | true => grind
  | false => grind

theorem check_eq_ok_iff {requireHttps : Bool} {t : Text} :
    check requireHttps t = .ok () ↔ Allowed requireHttps t := by
  unfold check Allowed
  cases hread : Url.read t with
  | error e => simp
  | ok u =>
    simp only [Except.ok.injEq, exists_eq_left', ← refusal?_eq_none_iff_scheme (t := t)]
    cases refusal? requireHttps t u <;> simp

/-! ## Bodies -/

/-- Pieces that are within the limit together come out as one, and others do not. -/
theorem receive_eq_ok_iff {limit : Nat} {taken data : Bytes} {chunks : List Bytes}
    (h : taken.length ≤ limit) : receive (.integer limit) taken chunks = .ok data ↔
      data = taken ++ chunks.flatten ∧ data.length ≤ limit := by
  induction chunks generalizing taken with
  | nil =>
    simp only [receive, Except.ok.injEq, List.flatten_nil, List.append_nil]
    exact ⟨fun he => ⟨he.symm, he ▸ h⟩, fun he => he.1.symm⟩
  | cons chunk chunks ih =>
    have hexceeds : (Value.integer limit).isExceededBy (taken ++ chunk).length = true
        ↔ limit < (taken ++ chunk).length := by
      simp [Value.isExceededBy, Value.ltInt?]
      omega
    simp only [receive, hexceeds, List.flatten_cons, ← List.append_assoc]
    split
    · refine iff_of_false nofun ?_
      rintro ⟨rfl, hlen⟩
      rw [List.length_append] at hlen
      omega
    · exact ih (by omega)

/-- A successful response with one of the types, if any are given, and a body within the limit. -/
structure Response.Fits (accepted : List Text) (limit : Nat) (r : Response) : Prop where
  success : 200 ≤ r.status ∧ r.status < 300
  typed : accepted = [] ∨ ∃ p ∈ accepted, p <+: r.type
  within : r.body.length ≤ limit

theorem isSuccess_eq_false_iff {r : Response} :
    r.isSuccess = false ↔ ¬ (200 ≤ r.status ∧ r.status < 300) := by
  simp [Response.isSuccess]

theorem untyped_iff {accepted : List Text} {type : Text} :
    (!accepted.isEmpty && !accepted.any (·.isPrefixOf type)) = true ↔
      ¬ (accepted = [] ∨ ∃ p ∈ accepted, p <+: type) := by
  simp

/-- A response is accepted if it fits and does not declare too much, and then with its whole body. -/
theorem accept_eq_ok_iff {p : Policy} {limit : Nat} (hlimit : p.limit = .integer limit) {url : Text}
    {r : Response} {data : Bytes} : accept p url r = .ok data ↔
      r.Fits p.accepted limit ∧ declaresTooMuch p.limit r.declared = .ok false ∧ data = r.body := by
  have hreceive : receive p.limit [] r.chunks = .ok data ↔ data = r.body ∧ data.length ≤ limit := by
    rw [hlimit, receive_eq_ok_iff (Nat.zero_le limit)]
    rfl
  unfold accept
  split
  · rename_i hfails
    exact iff_of_false nofun fun h => isSuccess_eq_false_iff.1 hfails h.1.success
  rename_i hsuccess
  split
  · rename_i huntyped
    exact iff_of_false nofun fun h => untyped_iff.1 huntyped h.1.typed
  rename_i htyped
  cases hdeclares : declaresTooMuch p.limit r.declared with
  | error e => exact iff_of_false nofun fun h => nomatch h.2.1
  | ok much =>
    cases much with
    | true => exact iff_of_false nofun fun h => nomatch h.2.1
    | false =>
      refine hreceive.trans ⟨?_, ?_⟩
      · rintro ⟨rfl, hlen⟩
        have hfits : r.Fits p.accepted limit :=
          ⟨Classical.not_not.1 (mt isSuccess_eq_false_iff.2 hsuccess),
            Classical.not_not.1 (mt untyped_iff.2 htyped), hlen⟩
        exact ⟨hfits, rfl, rfl⟩
      · rintro ⟨hfits, -, rfl⟩
        exact ⟨rfl, hfits.within⟩

/-! ## Chains of requests -/

/-- The URLs that are asked for from one on, each where the server points from the one before it, and the
response that points nowhere else. -/
inductive Leads (client : Client) (web : Text → Answer) : Text → List Text → Response → Prop where
  | ends {current : Text} {r : Response} (h : web current = .response r)
    (hnext : client.next? current r = none) : Leads client web current [current] r
  | points {current next : Text} {r r' : Response} {urls : List Text} (h : web current = .response r)
    (hnext : client.next? current r = some next) (hrest : Leads client web next urls r') :
    Leads client web current (current :: urls) r'

variable {client : Client} {web : Text → Answer} {p : Policy} {url : Text}

theorem Leads.head_mem {current : Text} {urls : List Text} {r : Response}
    (h : Leads client web current urls r) : current ∈ urls := by
  cases h <;> exact List.mem_cons_self

theorem leads_of_none {current : Text} {urls : List Text} {r r' : Response}
    (hweb : web current = .response r) (hnext : client.next? current r = none) :
    Leads client web current urls r' ↔ r = r' ∧ [current] = urls := by
  constructor
  · rintro (⟨h, -⟩ | ⟨h, hsome, -⟩)
    · exact ⟨Answer.response.inj (hweb.symm.trans h), rfl⟩
    · cases hweb.symm.trans h
      cases hnext.symm.trans hsome
  · rintro ⟨rfl, rfl⟩
    exact .ends hweb hnext

theorem leads_of_some {current next : Text} {urls : List Text} {r r' : Response}
    (hweb : web current = .response r) (hnext : client.next? current r = some next) :
    Leads client web current urls r' ↔
      ∃ rest, Leads client web next rest r' ∧ current :: rest = urls := by
  constructor
  · rintro (⟨h, hnone⟩ | ⟨h, hsome, hrest⟩)
    · cases hweb.symm.trans h
      cases hnext.symm.trans hnone
    · cases hweb.symm.trans h
      cases hnext.symm.trans hsome
      exact ⟨_, hrest, rfl⟩
  · rintro ⟨rest, hrest, rfl⟩
    exact .points hweb hnext hrest

/-- What comes of the requests from one URL on. -/
abbrev following (client : Client) (web : Text → Answer) (p : Policy) (url : Text) (fuel : Nat)
    (current : Text) : Fetched Response := Id.run (follow (m := Id) client web p url fuel current)

theorem following_refused {current : Text} {e : Error} (h : check p.requireHttps current = .error e)
    (fuel : Nat) : following client web p url (fuel + 1) current = { result := .error e } := by
  simp only [following, follow, h]
  rfl

theorem following_allowed (client : Client) (web : Text → Answer) (url : Text) {current : Text}
    (h : check p.requireHttps current = .ok ()) (fuel : Nat) :
    ∃ notices, following client web p url (fuel + 1) current =
      match web current with
      | .unreachable => ⟨.error (requestFailed url), [current], notices⟩
      | .response r =>
        match client.next? current r with
        | none => ⟨.ok r, [current], notices⟩
        | some next => (following client web p url fuel next).after [current] notices := by
  simp only [following, follow, h, Id.run, pure, bind]
  cases hweb : web current with
  | unreachable => exact ⟨_, rfl⟩
  | response r =>
    refine ⟨checkNotices current ++ [.requestSent current r.status r.reason], ?_⟩
    cases client.next? current r <;> rfl

/-- Only allowed URLs are asked for. -/
theorem allowed_of_following (fuel : Nat) (current : Text) :
    ∀ u ∈ (following client web p url fuel current).requests, Allowed p.requireHttps u := by
  induction fuel generalizing current with
  | zero => simp [following, follow]
  | succ n ih =>
    cases hcheck : check p.requireHttps current with
    | error e => simp [following_refused hcheck]
    | ok =>
      have hcurrent : Allowed p.requireHttps current := check_eq_ok_iff.1 hcheck
      obtain ⟨notices, hf⟩ := following_allowed client web url hcheck n
      rw [hf]
      split
      · simpa using hcurrent
      · split
        · simpa using hcurrent
        · rename_i next hnext
          simpa [Fetched.after] using ⟨hcurrent, ih next⟩

/-- A response comes from the end of a short chain of allowed URLs, each of which was asked for. -/
theorem follow_eq_ok_iff {fuel : Nat} {current : Text} {urls : List Text} {r : Response} :
    (following client web p url fuel current).result = .ok r ∧
        (following client web p url fuel current).requests = urls ↔
      Leads client web current urls r ∧ urls.length ≤ fuel ∧ ∀ u ∈ urls, Allowed p.requireHttps u := by
  -- A web may lead round in circles, so the induction is on the fuel and not on the chain.
  induction fuel generalizing current urls with
  | zero =>
    refine iff_of_false (fun h => nomatch h.1) fun ⟨hleads, hlen, _⟩ => ?_
    have := List.length_pos_of_mem hleads.head_mem
    omega
  | succ n ih =>
    cases hcheck : check p.requireHttps current with
    | error e =>
      rw [following_refused hcheck]
      refine iff_of_false (fun h => nomatch h.1) fun ⟨hleads, _, hall⟩ => ?_
      cases hcheck.symm.trans (check_eq_ok_iff.2 (hall current hleads.head_mem))
    | ok =>
      have hcurrent : Allowed p.requireHttps current := check_eq_ok_iff.1 hcheck
      obtain ⟨notices, hf⟩ := following_allowed client web url hcheck n
      rw [hf]
      split
      · rename_i hweb
        refine iff_of_false (fun h => nomatch h.1) fun ⟨hleads, _⟩ => ?_
        cases hleads with
        | ends h | points h => cases hweb.symm.trans h
      rename_i r0 hweb
      split
      · rename_i hnext
        rw [leads_of_none hweb hnext, Except.ok.injEq]
        refine ⟨fun h => ⟨h, ?_⟩, fun h => h.1⟩
        obtain ⟨-, rfl⟩ := h
        simpa using hcurrent
      · rename_i next hnext
        rw [leads_of_some hweb hnext]
        simp only [Fetched.after, List.singleton_append]
        constructor
        · rintro ⟨hr, rfl⟩
          obtain ⟨hleads, hlen, hall⟩ := ih.1 ⟨hr, rfl⟩
          exact ⟨⟨_, hleads, rfl⟩, Nat.succ_le_succ hlen, List.forall_mem_cons.2 ⟨hcurrent, hall⟩⟩
        · rintro ⟨⟨rest, hleads, rfl⟩, hlen, hall⟩
          obtain ⟨hr, hrest⟩ :=
            ih.2 ⟨hleads, Nat.le_of_succ_le_succ hlen, (List.forall_mem_cons.1 hall).2⟩
          exact ⟨hr, congrArg (current :: ·) hrest⟩

/-! ## Fetches -/

/-- The values that switch off the web, in any case. -/
def Off (switch : Text) : Prop := Text.lower switch ∈ ["true".toList, ['1'], "yes".toList, "on".toList]

theorem disables_iff {switch : Text} : disables switch = true ↔ Off switch := by
  simp [disables, Off, disablingValues]

/-- What a fetch for a URL does under a policy, with the switch that turns off the web at some value. -/
structure Keeps (client : Client) (web : Text → Answer) (requireHttps : Bool) (accepted : List Text)
    (limit : Nat) (switch url : Text) (f : Fetched Bytes) : Prop where
  /-- Only allowed URLs are asked for, those that servers point to among them. -/
  allowed : ∀ u ∈ f.requests, Allowed requireHttps u
  /-- Nothing is asked for unless the URL itself is allowed. -/
  given : f.requests ≠ [] → Allowed requireHttps url
  few : f.requests.length ≤ 6
  off : Off switch → f.requests = []
  /-- What comes back is the whole body of the last response, and that response fits. -/
  sound : ∀ data, f.result = .ok data →
    ∃ r, Leads client web (client.first url) f.requests r ∧ r.Fits accepted limit ∧ data = r.body
  /-- A response that fits and declares no length, or one that is exact or too small, comes back, in
  whatever pieces it arrives. -/
  complete : ∀ urls r, ¬ Off switch → Allowed requireHttps url →
    Leads client web (client.first url) urls r → (∀ u ∈ urls, Allowed requireHttps u) →
    urls.length ≤ 6 → r.Fits accepted limit →
    (r.declared = [] ∨ ∃ n, Text.toNat? r.declared = some n ∧ n ≤ r.body.length) →
    f.result = .ok r.body ∧ f.requests = urls

theorem declaredLength_of_toNat? {declared : Text} {n : Nat} (h : Text.toNat? declared = some n) :
    declaredLength declared = .ok (some n) := by
  unfold Text.toNat? at h
  split at h
  · cases h
  · rename_i hdigits
    cases h
    simp only [Bool.or_eq_true, Bool.not_eq_true', not_or, Bool.not_eq_true, Bool.not_eq_false] at hdigits
    obtain ⟨hne, hall⟩ := hdigits
    have hdecimal : declared.all Text.isDecimal = true :=
      List.all_eq_true.2 fun c hc => Text.isDecimal_of_isDigit (List.all_eq_true.1 hall c hc)
    have hany : declared.all Text.isAnyDigit = true :=
      List.all_eq_true.2 fun c hc => Bool.or_eq_true_iff.2 (.inl (List.all_eq_true.1 hdecimal c hc))
    rw [declaredLength, hne, hany, hdecimal, Text.readDecimals_eq hall]
    rfl

theorem declaresTooMuch_eq_false {limit n : Nat} {declared : Text} (hn : n ≤ limit)
    (h : declared = [] ∨ ∃ k, Text.toNat? declared = some k ∧ k ≤ n) :
    declaresTooMuch (.integer limit) declared = .ok false := by
  unfold declaresTooMuch
  rcases h with rfl | ⟨k, hk, hle⟩
  · rfl
  · have hwithin : (Value.integer limit).isExceededBy k = false := by
      simp [Value.isExceededBy, Value.ltInt?]
      omega
    rw [declaredLength_of_toNat? hk]
    exact congrArg Except.ok hwithin

theorem fetchBy_refused (client : Client) (web : Text → Answer)
    (h : p.isDisabled = true ∨ ¬ Allowed p.requireHttps url) :
    ∃ e, Id.run (fetchBy (m := Id) client web p url) = { result := .error e } := by
  unfold fetchBy
  split
  · exact ⟨_, rfl⟩
  · rename_i hon
    split
    · exact ⟨_, rfl⟩
    · rename_i hcheck
      exact absurd (check_eq_ok_iff.1 hcheck) (h.resolve_left hon)

/-- A fetch of an allowed URL follows the servers and accepts the last response. -/
theorem fetchBy_allowed (client : Client) (web : Text → Answer) (hon : p.isDisabled = false)
    (hurl : Allowed p.requireHttps url) :
    ∃ notices, Id.run (fetchBy (m := Id) client web p url) =
      { result := (following client web p url mostRequests (client.first url)).result.bind (accept p url)
        requests := (following client web p url mostRequests (client.first url)).requests
        notices := notices } := by
  simp only [fetchBy, hon, check_eq_ok_iff.2 hurl, Id.run, pure, bind, Bool.false_eq_true, ↓reduceIte]
  split <;> rename_i h
  · exact ⟨_, by rw [← h]⟩
  · exact ⟨_, by rw [← h]⟩

/-- On every web, with every way to write URLs and under every policy, a fetch keeps to the policy. -/
theorem fetch_keeps_policy (client : Client) (web : Text → Answer) (requireHttps : Bool)
    (accepted : List Text) (limit : Nat) (switch url : Text) :
    Keeps client web requireHttps accepted limit switch url
      (Id.run (fetchBy (m := Id) client web
        ⟨requireHttps, .integer limit, accepted, disables switch⟩ url)) := by
  by_cases hgo : ¬ Off switch ∧ Allowed requireHttps url
  · obtain ⟨hon, hurl⟩ := hgo
    let policy : Policy := ⟨requireHttps, .integer limit, accepted, disables switch⟩
    obtain ⟨notices, hf⟩ := fetchBy_allowed client web (p := policy)
      (Bool.eq_false_iff.2 (mt disables_iff.1 hon)) hurl
    rw [hf]
    refine ⟨allowed_of_following _ _, fun _ => hurl, length_follow_requests .., fun h => absurd h hon,
      ?_, ?_⟩
    · intro data hdata
      cases hr : (following client web policy url mostRequests (client.first url)).result with
      | error e =>
        rw [hr] at hdata
        cases hdata
      | ok r =>
        rw [hr] at hdata
        obtain ⟨hleads, -, -⟩ := follow_eq_ok_iff.1 ⟨hr, rfl⟩
        obtain ⟨hfits, -, hbody⟩ := (accept_eq_ok_iff rfl).1 hdata
        exact ⟨r, hleads, hfits, hbody⟩
    · intro urls r _ _ hleads hall hlen hfits hdeclared
      obtain ⟨hr, hurls⟩ :
          (following client web policy url mostRequests (client.first url)).result = .ok r ∧
            (following client web policy url mostRequests (client.first url)).requests = urls :=
        follow_eq_ok_iff.2 ⟨hleads, hlen, hall⟩
      refine ⟨?_, hurls⟩
      have hnot := declaresTooMuch_eq_false hfits.within hdeclared
      rw [hr]
      exact (accept_eq_ok_iff rfl).2 ⟨hfits, hnot, rfl⟩
  · have hrefused : disables switch = true ∨ ¬ Allowed requireHttps url := by
      rw [disables_iff]
      exact Classical.not_and_iff_not_or_not.1 hgo |>.imp_left Classical.not_not.1
    obtain ⟨e, hf⟩ := fetchBy_refused client web
      (p := ⟨requireHttps, .integer limit, accepted, disables switch⟩) hrefused
    rw [hf]
    exact ⟨nofun, fun h => absurd rfl h, Nat.zero_le _, fun _ => rfl, nofun,
      fun _ _ hon hurl => absurd ⟨hon, hurl⟩ hgo⟩

/-- A server that points to itself is asked six times. -/
example : (Id.run (fetchBy (m := Id) ⟨id, fun current _ => some current⟩
      (fun _ => .response { status := 302, reason := "Found".toList, chunks := [] }) {}
      "https://a.b/c".toList)).requests.length = 6 := by
  decide +kernel

end Texdown.Web
