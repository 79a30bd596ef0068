import Courier.Delivery.Http

/-! The method and headers of a client's requests, as HTTP looks at them. All of them but one pass whatever
the client is made with; the agent passes unless it holds a control character. -/
namespace Courier

namespace Http

variable {hs : List (String × String)}

theorem isHeaderValue_base64 (s : String) : isHeaderValue (Text.base64 s) = true := by
  have all_digits : ∀ digit < 64, isValueChar (Text.base64Digit digit) = true := by decide
  rw [isHeaderValue, Text.base64, String.toList_ofList, List.all_eq_true]
  intro c hc
  rcases Text.mem_base64Chars hc with rfl | ⟨digit, below, rfl⟩
  · rfl
  · exact all_digits digit below

theorem isValueChar_iff {c : Char} :
    isValueChar c = true ↔ c ≠ '\x7f' ∧ (c.toNat < 0x20 → c = '\t') := by
  have delete : c = '\x7f' ↔ c.toNat = 127 := Char.toNat_inj.symm
  have tab : c = '\t' ↔ c.toNat = 9 := Char.toNat_inj.symm
  simp only [isValueChar, Bool.or_eq_true, Bool.and_eq_true, decide_eq_true_eq, ne_eq, delete, tab]
  omega

theorem isHeaderValue_iff {s : String} : isHeaderValue s = true ↔
    ∀ c ∈ s.toList, c ≠ '\x7f' ∧ (c.toNat < 0x20 → c = '\t') := by
  simp only [isHeaderValue, List.all_eq_true, isValueChar_iff]

theorem checkHeaders_append (hs more : List (String × String)) :
    checkHeaders (hs ++ more) = checkHeaders hs >>= fun _ => checkHeaders more := by
  induction hs with
  | nil => rfl
  | cons h hs ih =>
    rw [List.cons_append, checkHeaders, checkHeaders, ih, bind_assoc]

theorem checkHeader_eq_ok {name value : String} (hn : isHeaderName name = true)
    (hv : isHeaderValue value = true) : checkHeader (name, value) = .ok () := by
  rw [checkHeader, if_neg (not_not_intro hn), if_neg (not_not_intro hv)]

theorem deliver_of_refused {r : Request} {e : TransportError} (method : checkMethod r.method = .ok ())
    (refused : checkHeaders r.headers = .error e)
    (network : Request → Except TransportError Response) : deliver network r = .error e := by
  rw [deliver, check, method, refused]
  rfl

end Http

namespace Target

open Http

theorem baseHeaders_eq (writeKey : String) : baseHeaders writeKey =
    [("Accept", "application/json"), ("Authorization", authorization writeKey),
      ("Content-Type", "application/json")] := rfl

theorem headers_ofSettings (s : Settings) (env : Envelope) : (ofSettings s env).headers =
    baseHeaders s.writeKey ++ (env.userAgent?.map ("User-Agent", ·)).toList := by
  unfold ofSettings
  cases env.userAgent? <;> rfl

theorem isHeaderValue_authorization (writeKey : String) :
    isHeaderValue (authorization writeKey) = true := by
  have key := isHeaderValue_base64 (writeKey ++ ":")
  unfold isHeaderValue at key ⊢
  rw [authorization, String.toList_append, List.all_append, key]
  rfl

theorem checkHeaders_baseHeaders (writeKey : String) : checkHeaders (baseHeaders writeKey) = .ok () := by
  have accept : checkHeader ("Accept", "application/json") = .ok () :=
    checkHeader_eq_ok (by decide) (by decide)
  have login : checkHeader ("Authorization", authorization writeKey) = .ok () :=
    checkHeader_eq_ok (by decide) (isHeaderValue_authorization writeKey)
  have content : checkHeader ("Content-Type", "application/json") = .ok () :=
    checkHeader_eq_ok (by decide) (by decide)
  simp only [baseHeaders_eq, checkHeaders, accept, login, content]
  rfl

theorem checkHeaders_headers (s : Settings) (env : Envelope) : checkHeaders (ofSettings s env).headers =
    match env.userAgent? with
    | some agent => checkHeader ("User-Agent", agent)
    | none => .ok () := by
  rw [headers_ofSettings, checkHeaders_append, checkHeaders_baseHeaders]
  cases env.userAgent? with
  | none => rfl
  | some agent =>
    change checkHeaders [("User-Agent", agent)] = checkHeader ("User-Agent", agent)
    rw [checkHeaders]
    cases checkHeader ("User-Agent", agent) <;> rfl

theorem checkHeader_agent (agent : String) : checkHeader ("User-Agent", agent) =
    if isHeaderValue agent then .ok ()
    else .error (.request "header user-agent: failed to parse header value") := by
  have name : isHeaderName "User-Agent" = true := by decide
  have shown : "header " ++ "User-Agent".map Char.toLower ++ ": failed to parse header value" =
      "header user-agent: failed to parse header value" := by
    rw [← String.toList_inj, String.toList_append, String.toList_append, String.toList_map]
    rfl
  rw [checkHeader, if_neg (not_not_intro name), shown, ite_not]

theorem checkHeader_agent_eq_ok_iff {agent : String} : checkHeader ("User-Agent", agent) = .ok () ↔
    ∀ c ∈ agent.toList, c ≠ '\x7f' ∧ (c.toNat < 0x20 → c = '\t') := by
  rw [checkHeader_agent, ← isHeaderValue_iff]
  split
  next passes => exact iff_of_true rfl passes
  next refused => exact iff_of_false nofun refused

/-- The method and headers of a request pass if and only if there is no agent, or one without control
characters but tabs. If they do not, no network is asked, and each attempt fails because of the agent. -/
theorem headers_pass_iff (s : Settings) (env : Envelope) (body : String) :
    (checkMethod ((ofSettings s env).request body).method = .ok () ∧
        checkHeaders ((ofSettings s env).request body).headers = .ok () ↔
      env.userAgent? = none ∨ ∃ agent, env.userAgent? = some agent ∧
        ∀ c ∈ agent.toList, c ≠ '\x7f' ∧ (c.toNat < 0x20 → c = '\t')) ∧
    ∀ agent, env.userAgent? = some agent →
      (∃ c ∈ agent.toList, c = '\x7f' ∨ c.toNat < 0x20 ∧ c ≠ '\t') → ∀ network,
      deliver network ((ofSettings s env).request body) =
        .error (.request "header user-agent: failed to parse header value") := by
  have post : checkMethod "POST" = .ok () := rfl
  have method : checkMethod ((ofSettings s env).request body).method = .ok () := post
  have headers : checkHeaders ((ofSettings s env).request body).headers = _ :=
    checkHeaders_headers s env
  rw [and_iff_right method, headers]
  cases known : env.userAgent? with
  | none => exact ⟨by simp, nofun⟩
  | some agent =>
    refine ⟨by simp [checkHeader_agent_eq_ok_iff], ?_⟩
    rintro _ ⟨⟩ ⟨c, hc, control⟩ network
    have refused : ¬isHeaderValue agent = true := by
      intro passes
      obtain ⟨shown, tab⟩ := isHeaderValue_iff.1 passes c hc
      exact control.elim shown fun low => low.2 (tab low.1)
    refine deliver_of_refused method (headers.trans ?_) network
    rw [known]
    exact (checkHeader_agent agent).trans (if_neg refused)

def twoLined : Envelope :=
  ⟨some (Object.empty.insert "library" (Value.object
    (Object.ofMembers [("name", Value.text "a\nb"), ("version", Value.text "1")]))), none⟩

theorem headers_pass_iff_twoLined :
    twoLined.userAgent? = some "a\nb/1" ∧
    checkHeaders (ofSettings {} twoLined).headers ≠ .ok () ∧
    deliver unreachable ((ofSettings {} twoLined).request "") =
      .error (.request "header user-agent: failed to parse header value") := by
  have agent : twoLined.userAgent? = some "a\nb/1" := by decide
  have line : ∃ c ∈ "a\nb/1".toList, c = '\x7f' ∨ c.toNat < 0x20 ∧ c ≠ '\t' :=
    ⟨'\n', by decide, .inr ⟨by decide, by decide⟩⟩
  obtain ⟨pass, refused⟩ := headers_pass_iff {} twoLined ""
  refine ⟨agent, fun passes => ?_, refused _ agent line unreachable⟩
  rcases pass.1 ⟨rfl, passes⟩ with absent | ⟨agent', known, clean⟩
  · cases agent.symm.trans absent
  · cases agent.symm.trans known
    obtain ⟨c, hc, control⟩ := line
    exact control.elim (clean c hc).1 fun low => low.2 ((clean c hc).2 low.1)

end Target

end Courier
