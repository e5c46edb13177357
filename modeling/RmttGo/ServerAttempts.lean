import RmttGo.ClientHandshake

/-!
# Trying one server after the other

`attemptConnection` goes through the servers of the options until one of them
accepts.  Each pass of its loop overwrites the connection, the return code and
the error of the pass before, and what is left of them behind the loop is
classified by the return code alone.  Dialling, the TLS handshake and the answers
of the servers are outcomes of the network; what the code does is recorded as a
list of effects.
-/

namespace RmttGo

namespace Client

open Codec

section Model

inductive Scheme
  | tcp
  | kcp
  | tls
  | quic
  | ws
  | wss
  | unknown (name : String)
  deriving DecidableEq, Repr

/-- What is used of a `*url.URL`. -/
structure ServerURL where
  scheme : Scheme
  host : String
  path : String
  deriving DecidableEq, Repr

/-- What the network makes of one pass. -/
structure Reply where
  /-- The connection below is made. -/
  reached : Bool
  /-- The TLS handshake, or the opening of the QUIC stream, succeeds. -/
  secured : Bool
  /-- The CONNECT is written. -/
  written : Bool
  /-- What can be read then. -/
  answer : Buffer
  deriving DecidableEq

structure ServerTry where
  server : ServerURL
  reply : Reply
  deriving DecidableEq

inductive AttemptError
  | unknownProtocol
  | unreachable
  | notSecured
  | notWritten
  | unreadable (failure : Codec.Error)
  | notConnack
  | refusedBadProtocolVersion
  | refusedNotAuthorised
  | protocolViolation
  deriving DecidableEq

/-- Connections are named by the pass that opens them. -/
inductive AttemptEffect (TLSConfig : Type)
  | openConnection (pass : Nat) (server : ServerURL) (tlsConfig : TLSConfig)
  | dial (pass : Nat)
  | onConnectAttempt (pass : Nat) (server : ServerURL)
      (given returned : TLSConfig)
  | close (pass : Nat)
  deriving DecidableEq

/-- `*tls.Config` is opaque to the client; the handler may answer every call
differently. -/
structure AttemptOptions (TLSConfig : Type) where
  tlsConfig : TLSConfig
  onConnectAttempt : Option (Nat → ServerURL → TLSConfig → TLSConfig)

/-- The variables of `attemptConnection`, with `c.serverKp`. -/
structure Attempt (TLSConfig : Type) where
  conn : Option Nat
  rc : UInt8
  err : Option AttemptError
  serverKp : Int
  effects : List (AttemptEffect TLSConfig)
  deriving DecidableEq

variable {TLSConfig : Type}

theorem networkError_ne_accepted : networkError ≠ Server.ReturnCode.accepted := by
  decide

/-- `openConnection`, which closes what it has made when it fails later. -/
def openConnection (pass : Nat) (server : ServerURL) (reply : Reply) :
    Option AttemptError × List (AttemptEffect TLSConfig) :=
  match server.scheme with
  | .tcp | .kcp | .ws | .wss =>
      if reply.reached then (none, [.dial pass]) else (some .unreachable, [])
  | .tls | .quic =>
      if reply.reached then
        if reply.secured then
          (none, [.dial pass])
        else
          (some .notSecured, [.dial pass, .close pass])
      else
        (some .unreachable, [])
  | .unknown _ => (some .unknownProtocol, [])

/-- The error `verifyCONNACK` returns. -/
def verifyCONNACKErr (conn : Buffer) : Option AttemptError :=
  match readPacket conn with
  | .ok (.connack _, _) => none
  | .ok _ => some .notConnack
  | .error failure => some (.unreadable failure)

def connectServer (reply : Reply) : UInt8 × UInt16 × Option AttemptError :=
  if reply.written then
    let (rc, serverKp) := verifyCONNACK reply.answer
    (rc, serverKp, verifyCONNACKErr reply.answer)
  else
    (networkError, 0, some .notWritten)

/-- The call of `OnConnectAttempt`; what it returns is not used any more. -/
def AttemptOptions.callHandler (options : AttemptOptions TLSConfig) (pass : Nat)
    (server : ServerURL) : List (AttemptEffect TLSConfig) :=
  match options.onConnectAttempt with
  | some handler =>
      [.onConnectAttempt pass server options.tlsConfig
        (handler pass server options.tlsConfig)]
  | none => []

/-- A pass of the loop. -/
def tryServer (options : AttemptOptions TLSConfig) (pass : Nat)
    (tried : ServerTry) (loop : Attempt TLSConfig) : Attempt TLSConfig :=
  let (err, made) := openConnection pass tried.server tried.reply
  let effects := loop.effects ++
    .openConnection pass tried.server options.tlsConfig :: made ++
      options.callHandler pass tried.server
  match err with
  | some err => ⟨none, networkError, some err, loop.serverKp, effects⟩
  | none =>
      let (rc, serverKp, err) := connectServer tried.reply
      if rc = Server.ReturnCode.accepted then
        ⟨some pass, rc, err, serverKp.toNat, effects⟩
      else
        ⟨some pass, rc, err, loop.serverKp, effects⟩

def tryServers (options : AttemptOptions TLSConfig) (pass : Nat) :
    List ServerTry → Attempt TLSConfig → Attempt TLSConfig
  | [], loop => loop
  | tried :: servers, loop =>
      let loop := tryServer options pass tried loop
      if loop.rc = Server.ReturnCode.accepted then loop
      else tryServers options (pass + 1) servers loop

/-- `ErrProtocolViolation`. -/
def protocolViolation : UInt8 := 0xFF

def Attempt.refused (attempt : Attempt TLSConfig) (err : AttemptError) :
    Attempt TLSConfig :=
  { attempt with
    err := some err
    effects := attempt.effects ++ attempt.conn.toList.map .close }

/-- The chain of comparisons behind the loop. -/
def Attempt.classified (attempt : Attempt TLSConfig) : Attempt TLSConfig :=
  if attempt.rc = networkError then attempt
  else if attempt.rc = Server.ReturnCode.accepted then attempt
  else if attempt.rc = Server.ReturnCode.refusedBadProtocolVersion then
    attempt.refused .refusedBadProtocolVersion
  else if attempt.rc = Server.ReturnCode.refusedNotAuthorised then
    attempt.refused .refusedNotAuthorised
  else if attempt.rc = protocolViolation then
    attempt.refused .protocolViolation
  else attempt

def AttemptOptions.attemptConnection (options : AttemptOptions TLSConfig)
    (serverKp : Int) (servers : List ServerTry) : Attempt TLSConfig :=
  (tryServers options 0 servers ⟨none, 0, none, serverKp, []⟩).classified

end Model

section Passes

variable {TLSConfig : Type} {options : AttemptOptions TLSConfig} {pass : Nat}
  {loop : Attempt TLSConfig}

namespace ServerTry

/-- The dial succeeds. -/
def opens (tried : ServerTry) : Bool :=
  match tried.server.scheme with
  | .tcp | .kcp | .ws | .wss => tried.reply.reached
  | .tls | .quic => tried.reply.reached && tried.reply.secured
  | .unknown _ => false

/-- The CONNACK that the server answers. -/
def connack (tried : ServerTry) : Option ConnackPacket :=
  if tried.opens && tried.reply.written then
    match readPacket tried.reply.answer with
    | .ok (.connack msg, _) => some msg
    | _ => none
  else
    none

def Accepted (tried : ServerTry) : Prop :=
  tried.connack.any (·.returnCode = Server.ReturnCode.accepted)

instance (tried : ServerTry) : Decidable tried.Accepted :=
  inferInstanceAs (Decidable (_ = true))

/-- The effects of a pass. -/
def effects (options : AttemptOptions TLSConfig) (pass : Nat)
    (tried : ServerTry) : List (AttemptEffect TLSConfig) :=
  .openConnection pass tried.server options.tlsConfig ::
    (openConnection pass tried.server tried.reply).2 ++
      options.callHandler pass tried.server

variable {tried : ServerTry}

theorem openConnection_of_opens (opens : tried.opens = true) :
    (openConnection pass tried.server tried.reply :
      Option AttemptError × List (AttemptEffect TLSConfig)) =
        (none, [.dial pass]) := by
  unfold ServerTry.opens at opens
  unfold openConnection
  split at opens <;> simp_all

/-- A failed dial leaves nothing open. -/
theorem openConnection_of_fails (fails : tried.opens = false) :
    ∃ err made, (openConnection pass tried.server tried.reply :
        Option AttemptError × List (AttemptEffect TLSConfig)) =
          (some err, made) ∧
      (made = [] ∨ made = [.dial pass, .close pass]) := by
  unfold ServerTry.opens at fails
  unfold openConnection
  split at fails
  · simp [fails]
  · simp [fails]
  · simp [fails]
  · simp [fails]
  · cases reached : tried.reply.reached <;> simp_all
  · cases reached : tried.reply.reached <;> simp_all
  · simp

theorem opens_of_connack {msg : ConnackPacket}
    (answered : tried.connack = some msg) : tried.opens = true := by
  unfold connack at answered
  split at answered
  · rename_i served
    exact (Bool.and_eq_true_iff.mp served).1
  · cases answered

theorem connectServer_of_connack {msg : ConnackPacket}
    (answered : tried.connack = some msg) :
    connectServer tried.reply = (msg.returnCode, msg.serverKeepalive, none) := by
  unfold connack at answered
  split at answered
  · rename_i served
    split at answered
    · rename_i isRead
      cases answered
      rw [connectServer, if_pos (Bool.and_eq_true_iff.mp served).2]
      simp only [verifyCONNACK, verifyCONNACKErr, isRead]
    · cases answered
  · cases answered

theorem connectServer_of_silent (silent : tried.connack = none)
    (opens : tried.opens = true) :
    ∃ err, connectServer tried.reply = (networkError, 0, some err) := by
  cases written : tried.reply.written with
  | false => exact ⟨.notWritten, by simp [connectServer, written]⟩
  | true =>
      simp only [connack, opens, written, Bool.and_self, if_true] at silent
      cases isRead : readPacket tried.reply.answer with
      | error failure =>
          refine ⟨.unreadable failure, ?_⟩
          simp [connectServer, written, verifyCONNACK, verifyCONNACKErr, isRead]
      | ok outcome =>
          obtain ⟨packet, rest⟩ := outcome
          rw [isRead] at silent
          cases packet
          case connack msg => cases silent
          all_goals
            refine ⟨.notConnack, ?_⟩
            simp [connectServer, written, verifyCONNACK, verifyCONNACKErr,
              isRead]

end ServerTry

variable {tried : ServerTry}

theorem tryServer_of_connack {msg : ConnackPacket}
    (answered : tried.connack = some msg) :
    tryServer options pass tried loop =
      ⟨some pass, msg.returnCode, none,
        if msg.returnCode = Server.ReturnCode.accepted then
          msg.serverKeepalive.toNat
        else loop.serverKp,
        loop.effects ++ tried.effects options pass⟩ := by
  have opened := ServerTry.opens_of_connack answered
  simp only [tryServer, ServerTry.effects,
    ServerTry.openConnection_of_opens opened,
    ServerTry.connectServer_of_connack answered]
  split
  · simp
  · simp

theorem tryServer_of_silent (silent : tried.connack = none) :
    ∃ err, tryServer options pass tried loop =
      ⟨if tried.opens then some pass else none, networkError, some err,
        loop.serverKp, loop.effects ++ tried.effects options pass⟩ := by
  cases opened : tried.opens with
  | true =>
      obtain ⟨err, answer⟩ := ServerTry.connectServer_of_silent silent opened
      refine ⟨err, ?_⟩
      simp only [tryServer, ServerTry.effects,
        ServerTry.openConnection_of_opens opened, answer]
      rw [if_neg networkError_ne_accepted]
      simp
  | false =>
      obtain ⟨err, made, failed, -⟩ :=
        @ServerTry.openConnection_of_fails TLSConfig pass tried opened
      refine ⟨err, ?_⟩
      simp only [tryServer, ServerTry.effects, failed]
      simp

theorem effects_tryServer :
    (tryServer options pass tried loop).effects =
      loop.effects ++ tried.effects options pass := by
  cases answered : tried.connack with
  | some msg => rw [tryServer_of_connack answered]
  | none =>
      obtain ⟨err, result⟩ := @tryServer_of_silent _ options pass loop _ answered
      rw [result]

theorem rc_tryServer_iff :
    (tryServer options pass tried loop).rc = Server.ReturnCode.accepted ↔
      tried.Accepted := by
  unfold ServerTry.Accepted
  cases answered : tried.connack with
  | some msg =>
      rw [tryServer_of_connack answered]
      simp
  | none =>
      obtain ⟨err, result⟩ := @tryServer_of_silent _ options pass loop _ answered
      rw [result]
      simp [networkError_ne_accepted]

theorem serverKp_tryServer (refused : ¬ tried.Accepted) :
    (tryServer options pass tried loop).serverKp = loop.serverKp := by
  unfold ServerTry.Accepted at refused
  cases answered : tried.connack with
  | some msg =>
      rw [answered] at refused
      rw [tryServer_of_connack answered]
      exact if_neg (by simpa using refused)
  | none =>
      obtain ⟨err, result⟩ := @tryServer_of_silent _ options pass loop _ answered
      rw [result]

end Passes

section Loop

variable {TLSConfig : Type} {options : AttemptOptions TLSConfig} {pass : Nat}
  {loop : Attempt TLSConfig} {servers : List ServerTry}

/-- The loop tries this server in this pass: none before it has accepted. -/
def Reaches (servers : List ServerTry) (pass : Nat) (tried : ServerTry) : Prop :=
  servers[pass]? = some tried ∧
    ∀ earlier other, earlier < pass → servers[earlier]? = some other →
      ¬ other.Accepted

theorem reaches_cons_zero {first tried : ServerTry} :
    Reaches (first :: servers) 0 tried ↔ tried = first := by
  simp [Reaches, eq_comm]

theorem reaches_cons_succ {first tried : ServerTry} :
    Reaches (first :: servers) (pass + 1) tried ↔
      ¬ first.Accepted ∧ Reaches servers pass tried := by
  constructor
  · rintro ⟨found, refused⟩
    refine ⟨refused 0 first (Nat.succ_pos pass) rfl, found, ?_⟩
    intro earlier other before isOther
    exact refused (earlier + 1) other (Nat.succ_lt_succ before) isOther
  · rintro ⟨firstRefused, found, refused⟩
    refine ⟨found, ?_⟩
    intro earlier other before isOther
    cases earlier with
    | zero =>
        cases isOther
        exact firstRefused
    | succ earlier =>
        exact refused earlier other (Nat.lt_of_succ_lt_succ before) isOther

theorem Reaches.unique {tried other : ServerTry} (reaches : Reaches servers pass tried)
    (alsoReaches : Reaches servers pass other) : tried = other :=
  Option.some.inj (reaches.1.symm.trans alsoReaches.1)

/-- No server is tried behind one that has accepted. -/
theorem Reaches.le_of_accepted {later : Nat} {tried other : ServerTry}
    (reaches : Reaches servers pass tried) (accepted : tried.Accepted)
    (reachesLater : Reaches servers later other) : later ≤ pass := by
  by_contra behind
  exact reachesLater.2 pass tried (Nat.lt_of_not_le behind) reaches.1 accepted

theorem mem_effects_tryServers {effect : AttemptEffect TLSConfig} :
    effect ∈ (tryServers options pass servers loop).effects ↔
      effect ∈ loop.effects ∨ ∃ index tried, Reaches servers index tried ∧
        effect ∈ tried.effects options (pass + index) := by
  induction servers generalizing pass loop with
  | nil => simp [tryServers, Reaches]
  | cons first servers induction =>
      simp only [tryServers, rc_tryServer_iff]
      constructor
      · intro member
        split at member
        · rw [effects_tryServer, List.mem_append] at member
          exact member.imp_right fun own => ⟨0, first, reaches_cons_zero.mpr rfl, own⟩
        · rename_i refused
          rw [induction, effects_tryServer, List.mem_append] at member
          rcases member with (before | own) | ⟨index, tried, reaches, own⟩
          · exact .inl before
          · exact .inr ⟨0, first, reaches_cons_zero.mpr rfl, own⟩
          · refine .inr ⟨index + 1, tried,
              reaches_cons_succ.mpr ⟨refused, reaches⟩, ?_⟩
            rwa [show pass + (index + 1) = pass + 1 + index by omega]
      · intro member
        have done (own : effect ∈ loop.effects ++ first.effects options pass) :
            effect ∈ (if first.Accepted then tryServer options pass first loop
              else tryServers options (pass + 1) servers
                (tryServer options pass first loop)).effects := by
          split
          · rw [effects_tryServer]
            exact own
          · rw [induction, effects_tryServer]
            exact .inl own
        rcases member with before | ⟨index, tried, reaches, own⟩
        · exact done (List.mem_append_left _ before)
        · cases index with
          | zero =>
              cases reaches_cons_zero.mp reaches
              exact done (List.mem_append_right _ own)
          | succ index =>
              obtain ⟨refused, reaches⟩ := reaches_cons_succ.mp reaches
              rw [if_neg refused, induction]
              refine .inr ⟨index, tried, reaches, ?_⟩
              rwa [show pass + 1 + index = pass + (index + 1) by omega]

/-- What the loop leaves behind is what its last pass left. -/
theorem exists_last_pass (nonempty : servers ≠ []) :
    ∃ index last before, Reaches servers index last ∧
      (last.Accepted ∨ index + 1 = servers.length) ∧
      before.serverKp = loop.serverKp ∧
      tryServers options pass servers loop =
        tryServer options (pass + index) last before := by
  induction servers generalizing pass loop with
  | nil => exact absurd rfl nonempty
  | cons first servers induction =>
      simp only [tryServers, rc_tryServer_iff]
      by_cases accepted : first.Accepted
      · rw [if_pos accepted]
        exact ⟨0, first, loop, reaches_cons_zero.mpr rfl, .inl accepted, rfl, rfl⟩
      · rw [if_neg accepted]
        cases servers with
        | nil =>
            exact ⟨0, first, loop, reaches_cons_zero.mpr rfl, .inr rfl, rfl, rfl⟩
        | cons second servers =>
            obtain ⟨index, last, before, reaches, stops, sameKp, result⟩ :=
              @induction (pass + 1) (tryServer options pass first loop)
                (List.cons_ne_nil _ _)
            refine ⟨index + 1, last, before,
              reaches_cons_succ.mpr ⟨accepted, reaches⟩,
              stops.imp_right (congrArg (· + 1)),
              sameKp.trans (serverKp_tryServer accepted), ?_⟩
            rw [result, show pass + 1 + index = pass + (index + 1) by omega]

/-- A pass that leaves no error leaves a connection. -/
theorem conn_tryServer {tried : ServerTry}
    (noError : (tryServer options pass tried loop).err = none) :
    (tryServer options pass tried loop).conn ≠ none := by
  cases answered : tried.connack with
  | some msg =>
      rw [tryServer_of_connack answered]
      exact Option.some_ne_none pass
  | none =>
      obtain ⟨err, result⟩ := @tryServer_of_silent _ options pass loop _ answered
      rw [result] at noError
      cases noError

theorem Attempt.classified_of_no_error {attempt : Attempt TLSConfig}
    (noError : attempt.classified.err = none) : attempt.classified = attempt := by
  unfold Attempt.classified at noError ⊢
  split_ifs at noError ⊢ <;> first | rfl | cases noError

/-- Without servers `attemptConnection` returns neither a connection nor an
error. -/
theorem AttemptOptions.returns_conn_iff (options : AttemptOptions TLSConfig)
    (serverKp : Int) (servers : List ServerTry) :
    ((options.attemptConnection serverKp servers).err = none →
        (options.attemptConnection serverKp servers).conn ≠ none) ↔
      servers ≠ [] := by
  constructor
  · rintro returns rfl
    exact returns rfl rfl
  · intro nonempty noError
    have kept := Attempt.classified_of_no_error noError
    obtain ⟨index, last, before, -, -, -, result⟩ :=
      @exists_last_pass _ options 0 ⟨none, 0, none, serverKp, []⟩ _ nonempty
    rw [attemptConnection, kept, result]
    rw [attemptConnection, kept, result] at noError
    exact conn_tryServer noError

/-- What the handshake of a pass gets to read, `none` if it does not come that
far. -/
def ServerTry.answer (tried : ServerTry) : Option Buffer :=
  if tried.opens && tried.reply.written then some tried.reply.answer else none

theorem attemptConnection_cons (rc : UInt8) (serverKp : Int) (tried : ServerTry)
    (answers : List (Option Buffer)) :
    attemptConnection rc serverKp (tried.answer :: answers) =
      match tried.connack with
      | some msg =>
          if msg.returnCode = Server.ReturnCode.accepted then
            (msg.returnCode, (msg.serverKeepalive.toNat : Int))
          else
            attemptConnection msg.returnCode serverKp answers
      | none => attemptConnection networkError serverKp answers := by
  unfold ServerTry.answer ServerTry.connack
  split
  · obtain ⟨result, isRead⟩ :
        ∃ result, readPacket tried.reply.answer = result := ⟨_, rfl⟩
    simp only [attemptConnection, verifyCONNACK, isRead]
    cases result with
    | error failure => exact if_neg networkError_ne_accepted
    | ok outcome =>
        obtain ⟨packet, rest⟩ := outcome
        cases packet
        case connack msg => rfl
        all_goals exact if_neg networkError_ne_accepted
  · rfl

/-- The return code and the keepalive of the loop, without its connections. -/
theorem tryServers_eq_attemptConnection :
    ((tryServers options pass servers loop).rc,
        (tryServers options pass servers loop).serverKp) =
      attemptConnection loop.rc loop.serverKp (servers.map ServerTry.answer) := by
  induction servers generalizing pass loop with
  | nil => rfl
  | cons tried servers induction =>
      rw [List.map_cons, attemptConnection_cons]
      simp only [tryServers]
      cases answered : tried.connack with
      | some msg =>
          rw [tryServer_of_connack answered]
          by_cases accepted : msg.returnCode = Server.ReturnCode.accepted
          · simp [accepted]
          · simp only [accepted, if_false]
            exact induction
      | none =>
          obtain ⟨err, result⟩ :=
            @tryServer_of_silent _ options pass loop _ answered
          rw [result, if_neg networkError_ne_accepted, induction]

end Loop

end Client

end RmttGo
