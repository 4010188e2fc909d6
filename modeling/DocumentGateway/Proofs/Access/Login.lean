import DocumentGateway.Access.Admission
import DocumentGateway.Proofs.Http.Header
import DocumentGateway.Proofs.Settings.Violation
import DocumentGateway.Proofs.Text.Base64
import DocumentGateway.Proofs.Text.Cut
import DocumentGateway.Proofs.Text.Utf8

/-!
# Logging in

A user logs in with the base64 of a name, a colon and a password. Whatever the characters of the
two, the header can be sent, and the gateway reads the same text out of it; but it takes for the
name what stands before the first colon. So a user whose name holds no colon gets in with the
password that the settings give, and with no other. Settings without faults may name a user with a
colon, and this user never gets in: the header is read as one of the user whose name stands before
the colon, if there is such a user, with the rest as the password.
-/

namespace DocumentGateway

namespace Text.Base64

/-- The written form goes into a header as it is and holds no blank. -/
theorem plain_of_mem_encode {bytes : Bytes} {c : Char} (h : c ∈ encode bytes) :
    Http.isTextChar c = true ∧ (c = ' ' || c = '\t') = false := by
  have hdigits : ∀ n < 64, Http.isTextChar (digit n) = true ∧
      (digit n = ' ' || digit n = '\t') = false := by
    decide
  rcases mem_encode h with rfl | ⟨n, hn, rfl⟩
  · decide
  · exact hdigits n hn

/-- No blank is taken off the written form. -/
theorem trim_encode (bytes : Bytes) :
    trim (fun c => c = ' ' || c = '\t') (encode bytes) = encode bytes := by
  have hkept : trim (fun c => c = ' ' || c = '\t') ([] ++ encode bytes ++ []) = encode bytes :=
    trim_of_kept (fun _ hc => nomatch hc) (fun _ hc => (plain_of_mem_encode hc).2)
      (fun _ hc => nomatch hc)
  rwa [List.nil_append, List.append_nil] at hkept

end Text.Base64

namespace Access

open Text (splitFirst)

/-- The value of an `Authorization` header that presents a text. -/
def basicText (text : String) : String :=
  "Basic " ++ String.ofList (Text.Base64.encode (Text.Utf8.encode text))

/-- The value of an `Authorization` header with which a user logs in. -/
def loginText (userid password : String) : String := basicText (userid ++ ":" ++ password)

/-- The account that the headers of a request open. -/
def accountOf (users : List User) (headers : Http.Headers) : Option Account :=
  match Credentials.ofHeaders headers with
  | .ok (some credentials) => verify users credentials
  | _ => none

theorem accountOf_of_offered {users : List User} {headers : Http.Headers}
    {credentials : Credentials} (h : Credentials.ofHeaders headers = .ok (some credentials)) :
    accountOf users headers = verify users credentials := by
  simp only [accountOf, h]

/-- A request that offers credentials is judged as one of the account it opens, and is refused if it
opens none. -/
theorem Rules.judge_of_offered {r : Rules} {headers : Http.Headers} {credentials : Credentials}
    (h : Credentials.ofHeaders headers = .ok (some credentials)) (method : Http.Method)
    (path : String) :
    r.judge headers method path =
      (accountOf r.users headers).elim .unauthenticated
        fun account => r.judgeCaller (some account) method path := by
  simp only [Rules.judge, accountOf, h]
  cases verify r.users credentials <;> rfl

namespace Credentials

variable {before after : String} {value : Http.HeaderValue}

theorem toList_basicText (text : String) :
    (basicText text).toList =
      "Basic".toList ++ ' ' :: Text.Base64.encode (Text.Utf8.encode text) := by
  simp only [basicText, String.toList_append, String.toList_ofList]
  rfl

/-- Every text can be presented. -/
theorem exists_value_of_basicText (text : String) :
    ∃ value, Http.HeaderValue.ofText? (basicText text) = some value ∧
      value.text? = some (basicText text) := by
  refine Http.exists_value_of_text ?_
  rw [toList_basicText, List.all_append, List.all_cons, Bool.and_eq_true, Bool.and_eq_true]
  refine ⟨by decide, by decide, List.all_eq_true.mpr fun c hc => ?_⟩
  exact (Text.Base64.plain_of_mem_encode hc).1

/-- What is presented is read as it was written. -/
theorem ofEncoded?_encode (text : String) :
    ofEncoded? (Text.Base64.encode (Text.Utf8.encode text)) = ofPair? text.toList := by
  simp only [ofEncoded?, Text.Base64.trim_encode, Text.Base64.decode?_encode,
    Text.Utf8.decode?_encode, Option.bind_eq_bind, Option.bind_some]

/-- The name is what stands before the first colon. -/
theorem ofPair?_of_colon (h : ':' ∉ before.toList) (after : String) :
    ofPair? (before ++ ":" ++ after).toList = some ⟨before, after⟩ := by
  have hbefore : ∀ c ∈ before.toList, decide (c = ':') = false := by
    intro c hc
    exact decide_eq_false fun he => h (he ▸ hc)
  have hpair : (before ++ ":" ++ after).toList = before.toList ++ ':' :: after.toList := by
    rw [String.toList_append, String.toList_append, List.append_assoc]
    rfl
  simp only [ofPair?, hpair, Text.splitFirst_append_cons hbefore (decide_eq_true rfl),
    Option.map_some, String.ofList_toList]

/-- A header that presents a text offers the name before its first colon and the rest as the
password. -/
theorem ofValue_of_basicText (hvalue : value.text? = some (basicText (before ++ ":" ++ after)))
    (h : ':' ∉ before.toList) : ofValue value = .ok (some ⟨before, after⟩) := by
  have hplain : ∀ c ∈ "Basic".toList, decide (c = ' ') = false := by simp
  have hscheme : splitFirst (· = ' ') (basicText (before ++ ":" ++ after)).toList =
      some ("Basic".toList, Text.Base64.encode (Text.Utf8.encode (before ++ ":" ++ after))) := by
    rw [toList_basicText]
    exact Text.splitFirst_append_cons hplain (decide_eq_true rfl) _
  have hbasic : Text.sameIgnoringCase (String.ofList "Basic".toList) "basic" = true := by decide
  simp only [ofValue, hvalue, hscheme, hbasic, ofEncoded?_encode, ofPair?_of_colon h]
  rfl

theorem ofHeaders_of_basicText {headers : Http.Headers}
    (hfirst : headers.first? "authorization" = some value)
    (hvalue : value.text? = some (basicText (before ++ ":" ++ after))) (h : ':' ∉ before.toList) :
    ofHeaders headers = .ok (some ⟨before, after⟩) := by
  simp only [ofHeaders, hfirst, ofValue_of_basicText hvalue h]

end Credentials

section

variable {users : List User} {user : User}

/-- The user with a name is one of the users and has this name. -/
theorem userid_of_findUser? {userid : String} (h : findUser? users userid = some user) :
    user.userid = userid := by
  have hmem := List.mem_of_getLast? h
  exact of_decide_eq_true (List.mem_filter.mp hmem).2

/-- An account has the name that was presented for it. -/
theorem id_of_verify {credentials : Credentials} {account : Account}
    (h : verify users credentials = some account) : account.id = credentials.userid := by
  obtain ⟨user, hfind, haccount⟩ := Option.bind_eq_some_iff.mp h
  split at haccount
  · cases haccount
    exact userid_of_findUser? hfind
  · cases haccount

/-- Where every name is used once, a user is found by name. -/
theorem findUser?_of_mem (hnames : (users.map User.userid).Nodup) (h : user ∈ users) :
    findUser? users user.userid = some user := by
  have hfilter : (users.filter fun u => u.userid = user.userid) = [user] := by
    induction users with
    | nil => cases h
    | cons first rest ih =>
      obtain ⟨hfirst, hrest⟩ := List.nodup_cons.mp hnames
      rw [List.filter_cons]
      rcases List.mem_cons.mp h with rfl | h
      · have hothers : ∀ u ∈ rest, ¬decide (u.userid = user.userid) = true := by
          intro u hu he
          exact hfirst (of_decide_eq_true he ▸ List.mem_map_of_mem hu)
        rw [if_pos (decide_eq_true rfl), List.filter_eq_nil_iff.mpr hothers]
      · have hother : ¬decide (first.userid = user.userid) = true := by
          intro he
          exact hfirst (of_decide_eq_true he ▸ List.mem_map_of_mem h)
        rw [if_neg hother, ih hrest h]
  rw [findUser?, hfilter]
  rfl

/-- Where every name is used once, a user's name opens the user's account with the user's password
only. -/
theorem verify_of_mem (hnames : (users.map User.userid).Nodup) (h : user ∈ users)
    (password : String) :
    verify users ⟨user.userid, password⟩ =
      if password = user.password then some ⟨user.userid, user.roles⟩ else none := by
  simp only [verify, findUser?_of_mem hnames h, Option.bind_some, eq_comm]

end

/-- In settings without faults, the header with which a user logs in can be sent with any password.
If the user's name holds no colon, it opens this user's account with the user's own password, and
with another it opens no account and the request is refused. If the name holds a colon, it opens
what the part before the first colon opens with the rest as the password, and so never this user's
account. -/
theorem login_opens_own_account (s : Settings) (hs : s.faults = []) (user : User)
    (huser : user ∈ s.security.rules.users) (password : String) :
    ∃ value, Http.HeaderValue.ofText? (loginText user.userid password) = some value ∧
      ∀ headers : Http.Headers, headers.first? "authorization" = some value →
        (':' ∉ user.userid.toList →
          (accountOf s.security.rules.users headers =
            if password = user.password then some ⟨user.userid, user.roles⟩ else none) ∧
          ∀ method path, s.security.rules.judge headers method path =
            if password = user.password then
              s.security.rules.judgeCaller (some ⟨user.userid, user.roles⟩) method path
            else .unauthenticated) ∧
        ∀ before after, user.userid = before ++ ":" ++ after → ':' ∉ before.toList →
          accountOf s.security.rules.users headers =
              verify s.security.rules.users ⟨before, after ++ ":" ++ password⟩ ∧
            ∀ account, accountOf s.security.rules.users headers = some account →
              account.id = before ∧ account.id ≠ user.userid := by
  obtain ⟨value, hvalue, htext⟩ :=
    Credentials.exists_value_of_basicText (user.userid ++ ":" ++ password)
  refine ⟨value, hvalue, fun headers hfirst => ⟨fun hcolon => ?_, ?_⟩⟩
  · have hoffered := Credentials.ofHeaders_of_basicText hfirst htext hcolon
    have haccount := (accountOf_of_offered hoffered).trans
      (verify_of_mem (Settings.nodup_of_faults hs) huser password)
    refine ⟨haccount, fun method path => ?_⟩
    rw [Rules.judge_of_offered hoffered, haccount]
    split <;> rfl
  · -- The first colon is the one in the name, and the one after the name is in the password.
    intro before after hname hcolon
    have hsplit : user.userid ++ ":" ++ password = before ++ ":" ++ (after ++ ":" ++ password) := by
      simp only [hname, String.append_assoc]
    have hoffered := Credentials.ofHeaders_of_basicText hfirst (hsplit ▸ htext) hcolon
    refine ⟨accountOf_of_offered hoffered, fun account hopened => ?_⟩
    rw [accountOf_of_offered hoffered] at hopened
    have hid : account.id = before := id_of_verify hopened
    refine ⟨hid, fun hown => hcolon ?_⟩
    rw [← hid, hown, hname]
    simp

/-- Settings in which some users are known, and nothing is allowed. -/
def settingsOf (users : List User) : Settings :=
  { (default : Settings) with security := ⟨⟨"docgate", users, []⟩, 1000⟩ }

/-- The headers of a request that offers credentials. -/
def authorized (value : Http.HeaderValue) : Http.Headers :=
  (Http.HeaderName.ofText? "Authorization").toList.map fun name => ⟨name, value⟩

/-- A user gets in with a name and a password that are not ASCII, and not with another password; a
user with a colon in the name gets in as somebody else. -/
theorem login_opens_own_account_zoe :
    let zoe : User := ⟨"zoë", "päss:word", ["readers"]⟩
    let joint : User := ⟨"a:b", "c", ["readers"]⟩
    let s := settingsOf [zoe, joint, ⟨"a", "b:d", ["writers"]⟩]
    s.faults = [] ∧ zoe ∈ s.security.rules.users ∧ joint ∈ s.security.rules.users ∧
      ':' ∉ zoe.userid.toList ∧
      (∃ value, Http.HeaderValue.ofText? (loginText "zoë" "päss:word") = some value ∧
        accountOf s.security.rules.users (authorized value) = some ⟨"zoë", ["readers"]⟩) ∧
      (∃ value, Http.HeaderValue.ofText? (loginText "zoë" "päss") = some value ∧
        accountOf s.security.rules.users (authorized value) = none) ∧
      ∃ value, Http.HeaderValue.ofText? (loginText "a:b" "d") = some value ∧
        accountOf s.security.rules.users (authorized value) = some ⟨"a", ["writers"]⟩ := by
  intro zoe joint s
  have hfaults : s.faults = [] := by decide +kernel
  have hzoe : zoe ∈ s.security.rules.users := List.mem_cons_self
  have hjoint : joint ∈ s.security.rules.users := List.mem_cons_of_mem _ List.mem_cons_self
  have hcolon : ':' ∉ zoe.userid.toList := by decide
  obtain ⟨own, hown, hopens⟩ := login_opens_own_account s hfaults zoe hzoe "päss:word"
  obtain ⟨wrong, hwrong, hrefused⟩ := login_opens_own_account s hfaults zoe hzoe "päss"
  obtain ⟨other, hother, hothers⟩ := login_opens_own_account s hfaults joint hjoint "d"
  refine ⟨hfaults, hzoe, hjoint, hcolon, ⟨own, hown, ?_⟩, ⟨wrong, hwrong, ?_⟩, other, hother, ?_⟩
  · exact ((hopens (authorized own) rfl).1 hcolon).1
  · exact ((hrefused (authorized wrong) rfl).1 hcolon).1
  · exact ((hothers (authorized other) rfl).2 "a" "b" rfl (by decide)).1

/-- Settings without faults may name a user with a colon. This user does not get in with the own
password, and gets in as somebody else with another one. -/
theorem colon_locks_user_out :
    let s := settingsOf [⟨"a", "b:d", ["writers"]⟩, ⟨"a:b", "c", ["readers"]⟩]
    let own : Http.HeaderValue := { bytes := Text.Utf8.encode "Basic YTpiOmM=" }
    let other : Http.HeaderValue := { bytes := Text.Utf8.encode "Basic YTpiOmQ=" }
    s.faults = [] ∧
      loginText "a:b" "c" = "Basic YTpiOmM=" ∧
      accountOf s.security.rules.users (authorized own) = none ∧
      loginText "a:b" "d" = "Basic YTpiOmQ=" ∧
      accountOf s.security.rules.users (authorized other) = some ⟨"a", ["writers"]⟩ := by
  decide +kernel

end Access

end DocumentGateway
