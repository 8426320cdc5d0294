import ParDiff.Console.Sessions

/-!
# `web/user/ticket/view.cgi`

The page of a ticket is meant for those who have the token of its number.  A wrong token
sets `$error` and the script goes on: it reads the ticket, and `view.tmpl` leaves the
content out when there is an error.  The title of the page has been replaced by the
ticket's by then, and for a number without a ticket the script has ended without a page.
-/

namespace ParDiff.Tickets

open Lib Lib.Text Console

/-! ## `view.tmpl` -/

/-- The variables of the script that the template gets. -/
structure Vars where
  title : Str
  error : Str
  content : Str
  ticketToken : Str
  ticketId : Str

/-- Up to `PAGE_TITLE`. -/
def beforeTitle : Str :=
  ("<!DOCTYPE HTML PUBLIC \"-//IETF//DTD HTML//EN\">\n<html>\n<head>\n" ++
    "<meta http-equiv=\"Content-Type\" content=\"text/html; charset=utf-8\" />\n" ++
    "<link rel=\"stylesheet\" type=\"text/css\" href=\"/style/main.css\" />\n<title>").toList

/-- From the title to the test of `ERROR`. -/
def afterTitle : Str :=
  ("</title>\n</head>\n\n<body>\n<div id=\"wrapper\">\n<div id=\"header\">\n</div>\n\n" ++
    "<div id=\"contentwrapper\">\n<div id=\"content\">\n").toList

def errorPart (error : Str) : Str :=
  "\n<p>错误发生，原因:</p>\n<pre>".toList ++ (error ++ "</pre>\n".toList)

/-- The content and the form for the next message. -/
def contentPart (v : Vars) : Str :=
  "\n".toList ++ (v.content ++
    ("\n\n<form action=\"create.cgi\" method=\"POST\">\n" ++
      "<input type=\"hidden\" name=\"type\" value=\"old\" />\n" ++
      "<input type=\"hidden\" name=\"token\" value=\"").toList ++ (v.ticketToken ++
    ("\" />\n<input type=\"hidden\" name=\"ticket\" value=\"").toList ++ (v.ticketId ++
    ("\" />\n<textarea name=\"content\" cols=\"80\" rows=\"10\">\n请在此输入后续内容\n" ++
      "</textarea>\n<br />\n\n请输入验证码:\n    " ++
      "<script src=\"http://api.recaptcha.net/challenge?" ++
      "k=6LdHVwsAAAAAAJf562_qCaDHPtqEv2jOF%2d%2dml5Ao\" type=\"text/javascript\"></script>\n" ++
      "<noscript><iframe frameborder=\"0\" height=\"300\" " ++
      "src=\"http://api.recaptcha.net/noscript?" ++
      "k=6LdHVwsAAAAAAJf562_qCaDHPtqEv2jOF%2d%2dml5Ao\" width=\"500\"></iframe>" ++
      "<textarea cols=\"40\" name=\"recaptcha_challenge_field\" rows=\"3\"></textarea>" ++
      "<input name=\"recaptcha_response_field\" type=\"hidden\" value=\"manual_challenge\" />" ++
      "</noscript>\n<br />\n\n<input type=\"submit\" value=\"提交\" />\n</form>\n\n\n").toList)))

def pageEnd : Str := "\n</div>\n</div>\n</div>\n</body>\n</html>\n".toList

/-- Nothing is escaped. -/
def viewTmpl (v : Vars) : Str :=
  beforeTitle ++ (v.title ++ (afterTitle ++
    ((if truthy (some v.error) then errorPart v.error else contentPart v) ++ pageEnd)))

/-! ## The script -/

/-- `param(…) || ''`. -/
def orEmpty (param : Option Str) : Str := if truthy param then param.getD [] else []

def ticketId (r : Request) : Str := orEmpty (r.param "ticket")

def ticketToken (r : Request) : Str := orEmpty (r.param "token")

def Vars.refuse (title error : String) (v : Vars) : Vars :=
  { v with title := title.toList, error := error.toList }

def threadContent (thread : TicketThread) : Str :=
  "<h1>".toList ++ thread.title ++ "</h1><p>用户名: ".toList ++ thread.username ++
    "</p><p>状态:".toList ++ (if thread.status = .closed then "关闭" else "开启").toList ++
    "</p>".toList

/-- `exit 0` before anything is printed, whatever the variables are. -/
def exitZero (_ : Vars) : List Output := []

section

variable (env : Env)

/-- The variables after the test of the token. -/
def checkToken (r : Request) : Vars :=
  let v : Vars := ⟨[], [], [], ticketToken r, ticketId r⟩
  if ticketToken r ≠ env.md5Hex (ticketId r ++ env.md5Hex (ticketId r)) then
    v.refuse "id与token不匹配。" "<h1>请点击确认函中的浏览地址。</h1>"
  else v

def ticketsContent (tickets : List Ticket) : Str :=
  "<table border=\"1\" width=\"90%\">".toList ++ tickets.flatMap (ticketContent env) ++
    "</table>".toList

def view (r : Request) : Cgi (List Output) := do
  let v := checkToken env r
  let ref ← .query fun s =>
    s.ticketThreads.rows.find? fun thread => hasId (some (ticketId r)) thread.id
  match ref.filter fun thread => truthy (some (dec thread.id)) with
  | none =>
      return exitZero (v.refuse "ticket未找到。"
        "<h1>您所要求的支持编号未找到。请点击确认函中的浏览地址。</h1>")
  | some thread =>
      let tickets ← .query fun s =>
        newestFirst (·.id) (s.tickets.rows.filter fun t =>
          decide ((t.threadId : Rat) = numPrefix (ticketId r)))
      let v := { v with
        title := thread.title
        content := threadContent thread ++ ticketsContent env tickets }
      return [.header [], .text (viewTmpl v)]

/-- What the script prints. -/
def response (r : Request) (s : Site) : List Output := ((view env r).run s).value

end

/-! ## A wrong token -/

/-- The ticket that the script finds. -/
def foundThread (r : Request) (s : Site) : Option TicketThread :=
  (s.ticketThreads.rows.find? fun thread => hasId (some (ticketId r)) thread.id).filter
    fun thread => truthy (some (dec thread.id))

/-- What a response to a wrong token shows of the ticket. -/
def shownTitle (r : Request) (s : Site) : Option Str := (foundThread r s).map (·.title)

variable {env : Env} {r : Request} {s : Site}

theorem response_of_none (h : foundThread r s = none) : response env r s = [] := by
  rw [foundThread] at h
  rw [response, view, Script.bind_eq, Script.run_bind, Script.run_query]
  simp only [h]
  rfl

theorem response_of_some {thread : TicketThread} (h : foundThread r s = some thread) :
    ∃ content, response env r s = [.header [], .text (viewTmpl
      { checkToken env r with title := thread.title, content := content })] := by
  rw [foundThread] at h
  rw [response, view, Script.bind_eq, Script.run_bind, Script.run_query]
  simp only [h, Script.bind_eq, Script.run_bind, Script.run_query]
  exact ⟨_, rfl⟩

/-- The script's test of the token. -/
def WrongToken (env : Env) (r : Request) : Prop :=
  ticketToken r ≠ env.md5Hex (ticketId r ++ env.md5Hex (ticketId r))

/-- What the template makes of the error; only the title is the ticket's. -/
def errorPage (title : Str) : List Output :=
  [.header [], .text (beforeTitle ++ (title ++ (afterTitle ++
    (errorPart "<h1>请点击确认函中的浏览地址。</h1>".toList ++ pageEnd))))]

theorem errorPage_injective : Function.Injective errorPage := by
  intro title title' h
  simpa [errorPage] using h

theorem checkToken_of_wrongToken (h : WrongToken env r) :
    (checkToken env r).error = "<h1>请点击确认函中的浏览地址。</h1>".toList := by
  rw [WrongToken] at h
  rw [checkToken, if_pos h]
  rfl

theorem viewTmpl_of_error {v : Vars} (h : truthy (some v.error) = true) :
    viewTmpl v =
      beforeTitle ++ (v.title ++ (afterTitle ++ (errorPart v.error ++ pageEnd))) := by
  rw [viewTmpl, if_pos h]

/-- The whole response to a wrong token. -/
theorem response_of_wrongToken (h : WrongToken env r) (s : Site) :
    response env r s = (shownTitle r s).elim [] errorPage := by
  rw [shownTitle]
  cases hfound : foundThread r s with
  | none => rw [response_of_none hfound]; rfl
  | some thread =>
      obtain ⟨content, hresponse⟩ := @response_of_some env r s thread hfound
      rw [hresponse, viewTmpl_of_error (by rw [checkToken_of_wrongToken h]; decide),
        checkToken_of_wrongToken h]
      rfl

/-- Without a number no ticket is found. -/
theorem foundThread_of_nil (h : ticketId r = []) : foundThread r s = none := by
  rw [foundThread, h, Option.filter_eq_none_iff]
  intro thread hthread
  have hnumber : numPrefix [] = 0 := by decide +kernel
  have hid : thread.id = 0 := by
    simpa [hasId, hnumber] using List.find?_some hthread
  rw [hid]
  decide

/-- A token that is not the one of the number, for the parameters as they were sent. -/
theorem wrongToken_of_params (hmd5 : env.IsMd5) (hid : ticketId r ≠ [])
    (h : (r.param "token").getD [] ≠ env.md5Hex ((r.param "ticket").getD [] ++
      env.md5Hex ((r.param "ticket").getD []))) : WrongToken env r := by
  have hticket : ticketId r = (r.param "ticket").getD [] := by
    rw [ticketId, orEmpty] at hid ⊢
    split_ifs at hid ⊢ with htruthy
    · rfl
    · exact absurd rfl hid
  rw [WrongToken, hticket, ticketToken, orEmpty]
  split_ifs
  · exact h
  · intro hnil
    have hlength := (hmd5 ((r.param "ticket").getD [] ++
      env.md5Hex ((r.param "ticket").getD []))).1
    rw [← hnil] at hlength
    exact absurd hlength (by decide)

/-- **Wrong tokens.**  For two contents of the tables the response to a wrong token is the
same, if and only if the ticket is missing in both or has the same title in both. -/
theorem response_alike_iff (hmd5 : env.IsMd5)
    (hwrong : (r.param "token").getD [] ≠ env.md5Hex ((r.param "ticket").getD [] ++
      env.md5Hex ((r.param "ticket").getD []))) (s s' : Site) :
    response env r s = response env r s' ↔ shownTitle r s = shownTitle r s' := by
  by_cases hid : ticketId r = []
  · have hnone := fun s => foundThread_of_nil (s := s) hid
    rw [response_of_none (hnone s), response_of_none (hnone s'), shownTitle, shownTitle, hnone,
      hnone]
    exact iff_of_true rfl rfl
  · have hwrong' := wrongToken_of_params hmd5 hid hwrong
    rw [response_of_wrongToken hwrong', response_of_wrongToken hwrong']
    constructor
    · intro h
      cases htitle : shownTitle r s <;> cases htitle' : shownTitle r s'
      · rfl
      · rw [htitle, htitle'] at h
        exact absurd h (by simp [errorPage])
      · rw [htitle, htitle'] at h
        exact absurd h (by simp [errorPage])
      · rw [htitle, htitle'] at h
        exact congrArg some (errorPage_injective h)
    · intro h
      rw [h]

/-! ## Two tickets number 1 -/

/-- MD5 on the number 1 and on what its token is made of. -/
def ticketEnv : Env where
  md5Hex := fun text => hexText (([("1".toList, 0xc4ca4238a0b923820dcc509a6f75849b),
    ("1c4ca4238a0b923820dcc509a6f75849b".toList, 0xbc7235a51e34c1d3ebfddeb538c20c71)].lookup
      text).getD 0)
  emailValid := fun _ => true
  timestamp := fun _ => "0000-00-00 00:00:00".toList
  decimal := fun _ => []
  number := fun _ => []

def ticketSite (title username content : String) (status : TicketStatus) : Site where
  db := Db.empty 1
  admins := .empty
  ticketThreads := .single ⟨1, title.toList, username.toList, [], [], status⟩
  tickets := .single ⟨1, 1, .client, 0, none, content.toList⟩

/-- Ticket number 1, with a made-up token. -/
def guess : Request where
  params := [("ticket".toList, "1".toList), ("token".toList, "guess".toList)]
  cookies := []
  captchaValid := false
  rand := []

theorem response_alike_same_title :
    response ticketEnv guess (ticketSite "refund" "ann" "card lost" .opened) =
      response ticketEnv guess (ticketSite "refund" "bob" "wrong amount" .closed) :=
  (response_alike_iff (fun _ => isMd5Hex_hexText _) (by decide +kernel) _ _).2 (by decide +kernel)

/-- The guess shows the title, and whether there is such a ticket at all. -/
theorem wrong_token_shows_title :
    (guess.param "token").getD [] ≠ ticketEnv.md5Hex ((guess.param "ticket").getD [] ++
      ticketEnv.md5Hex ((guess.param "ticket").getD [])) ∧
    response ticketEnv guess (ticketSite "refund" "ann" "card lost" .opened) ≠
      response ticketEnv guess (ticketSite "no connection" "ann" "card lost" .opened) ∧
    response ticketEnv guess (ticketSite "refund" "ann" "card lost" .opened) ≠
      response ticketEnv guess
        { ticketSite "refund" "ann" "card lost" .opened with ticketThreads := .empty } := by
  have hwrong : WrongToken ticketEnv guess := by
    rw [WrongToken]
    decide +kernel
  have hrefund : shownTitle guess (ticketSite "refund" "ann" "card lost" .opened) =
      some "refund".toList := by decide +kernel
  have hother : shownTitle guess (ticketSite "no connection" "ann" "card lost" .opened) =
      some "no connection".toList := by decide +kernel
  have hmissing : shownTitle guess { ticketSite "refund" "ann" "card lost" .opened with
      ticketThreads := .empty } = none := by decide +kernel
  simp only [response_of_wrongToken hwrong, hrefund, hother, hmissing, Option.elim]
  refine ⟨by decide +kernel, fun h => ?_, by simp [errorPage]⟩
  exact absurd (errorPage_injective h) (by decide)

end ParDiff.Tickets
