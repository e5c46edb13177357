import RmttGo.ServerAttempts

/-!
# What a fail-over returns, closes and passes to TLS

The chain of comparisons behind the loop of `attemptConnection` knows three
refusals.  A CONNACK with any other return code is returned with the nil error
of its handshake, and a connection is closed only if it is the one of the last
pass and was refused with one of the three.
-/

namespace RmttGo

namespace Client

open Codec

variable {TLSConfig : Type} {options : AttemptOptions TLSConfig} {pass index : Nat}
  {servers : List ServerTry} {tried last : ServerTry} {serverKp : Int}

section LastPass

/-- The refusals that get an error of their own. -/
def RefusalCode (rc : UInt8) : Prop :=
  rc = Server.ReturnCode.refusedBadProtocolVersion ∨
    rc = Server.ReturnCode.refusedNotAuthorised ∨ rc = protocolViolation

instance (rc : UInt8) : Decidable (RefusalCode rc) :=
  inferInstanceAs (Decidable (_ ∨ _))

theorem not_refusalCode_networkError : ¬ RefusalCode networkError := by
  decide

theorem not_refusalCode_accepted : ¬ RefusalCode Server.ReturnCode.accepted := by
  decide

theorem classified_of_refusal {attempt : Attempt TLSConfig}
    (refusal : RefusalCode attempt.rc) :
    ∃ err, attempt.classified = attempt.refused err := by
  unfold Attempt.classified
  rcases refusal with code | code | code
  · exact ⟨.refusedBadProtocolVersion, by rw [code]; rfl⟩
  · exact ⟨.refusedNotAuthorised, by rw [code]; rfl⟩
  · exact ⟨.protocolViolation, by rw [code]; rfl⟩

theorem classified_of_other {attempt : Attempt TLSConfig}
    (other : ¬ RefusalCode attempt.rc) : attempt.classified = attempt := by
  obtain ⟨notVersion, notAuthorised, notViolation⟩ := by
    simpa [RefusalCode] using other
  unfold Attempt.classified
  rw [if_neg notVersion, if_neg notAuthorised, if_neg notViolation, ite_self,
    ite_self]

theorem conn_classified (attempt : Attempt TLSConfig) :
    attempt.classified.conn = attempt.conn := by
  by_cases refusal : RefusalCode attempt.rc
  · obtain ⟨err, classified⟩ := classified_of_refusal refusal
    rw [classified]
    rfl
  · rw [classified_of_other refusal]

theorem mem_effects_classified {attempt : Attempt TLSConfig}
    {effect : AttemptEffect TLSConfig} :
    effect ∈ attempt.classified.effects ↔ effect ∈ attempt.effects ∨
      RefusalCode attempt.rc ∧
        ∃ conn, attempt.conn = some conn ∧ effect = .close conn := by
  by_cases refusal : RefusalCode attempt.rc
  · obtain ⟨err, classified⟩ := classified_of_refusal refusal
    rw [classified]
    simp [Attempt.refused, refusal, eq_comm]
  · rw [classified_of_other refusal]
    simp [refusal]

/-- The loop ends with this pass. -/
def EndsWith (servers : List ServerTry) (index : Nat) (last : ServerTry) : Prop :=
  Reaches servers index last ∧ (last.Accepted ∨ index + 1 = servers.length)

theorem EndsWith.le {earlier : Nat} (ends : EndsWith servers index last)
    (reaches : Reaches servers earlier tried) : earlier ≤ index := by
  rcases ends.2 with accepted | atEnd
  · exact ends.1.le_of_accepted accepted reaches
  · obtain ⟨inside, -⟩ := List.getElem?_eq_some_iff.mp reaches.1
    omega

theorem EndsWith.unique {other : Nat} (ends : EndsWith servers index last)
    (alsoEnds : EndsWith servers other tried) : other = index ∧ tried = last := by
  obtain rfl := Nat.le_antisymm (ends.le alsoEnds.1) (alsoEnds.le ends.1)
  exact ⟨rfl, alsoEnds.1.unique ends.1⟩

/-- If the last server tried has not accepted, none has. -/
theorem EndsWith.none_accepted (ends : EndsWith servers index last)
    (refused : ¬ last.Accepted) : ∀ tried ∈ servers, ¬ tried.Accepted := by
  intro tried member
  obtain ⟨place, found⟩ := List.mem_iff_getElem?.mp member
  have atEnd := ends.2.resolve_left refused
  obtain ⟨inside, -⟩ := List.getElem?_eq_some_iff.mp found
  by_cases before : place < index
  · exact ends.1.2 place tried before found
  · obtain rfl : place = index := by omega
    rw [Option.some.inj (found.symm.trans ends.1.1)]
    exact refused

theorem EndsWith.accepted_iff (ends : EndsWith servers index last) :
    (∃ tried ∈ servers, tried.Accepted) ↔ last.Accepted := by
  constructor
  · rintro ⟨tried, member, accepted⟩
    by_contra refused
    exact ends.none_accepted refused tried member accepted
  · intro accepted
    exact ⟨last, List.mem_iff_getElem?.mpr ⟨index, ends.1.1⟩, accepted⟩

/-- The result of `attemptConnection` is that of its last pass, classified. -/
theorem exists_endsWith (options : AttemptOptions TLSConfig) (serverKp : Int)
    (nonempty : servers ≠ []) :
    ∃ index last before, EndsWith servers index last ∧
      before.serverKp = serverKp ∧
      tryServers options 0 servers ⟨none, 0, none, serverKp, []⟩ =
        tryServer options index last before := by
  obtain ⟨index, last, before, reaches, stops, sameKp, result⟩ :=
    @exists_last_pass _ options 0 ⟨none, 0, none, serverKp, []⟩ servers nonempty
  rw [Nat.zero_add] at result
  exact ⟨index, last, before, ⟨reaches, stops⟩, sameKp, result⟩

theorem ServerTry.accepted_iff {msg : ConnackPacket}
    (answered : tried.connack = some msg) :
    tried.Accepted ↔ msg.returnCode = Server.ReturnCode.accepted := by
  simp [ServerTry.Accepted, answered]

theorem ServerTry.not_accepted_of_silent (silent : tried.connack = none) :
    ¬ tried.Accepted := by
  simp [ServerTry.Accepted, silent]

theorem not_refusalCode_of_silent {before : Attempt TLSConfig}
    (silent : tried.connack = none) :
    ¬ RefusalCode (tryServer options pass tried before).rc := by
  obtain ⟨err, result⟩ := @tryServer_of_silent _ options pass before _ silent
  rw [result]
  exact not_refusalCode_networkError

end LastPass

section Acceptance

/-- The nil error means that a server has accepted, and then the connection and
the keepalive are those of the first one that did. -/
structure Attempt.SucceedsOnAcceptance (servers : List ServerTry)
    (attempt : Attempt TLSConfig) : Prop where
  nil_iff : attempt.err = none ↔ ∃ tried ∈ servers, tried.Accepted
  first : ∀ index tried msg, Reaches servers index tried →
    tried.connack = some msg → msg.returnCode = Server.ReturnCode.accepted →
      attempt.conn = some index ∧ attempt.serverKp = msg.serverKeepalive.toNat

theorem EndsWith.forall_last_iff (ends : EndsWith servers index last)
    {Known : ConnackPacket → Prop} :
    (∀ other tried msg, Reaches servers other tried →
      other + 1 = servers.length → tried.connack = some msg → Known msg) ↔
      (index + 1 = servers.length → ∀ msg, last.connack = some msg → Known msg) := by
  constructor
  · intro all atEnd msg answered
    exact all index last msg ends.1 atEnd answered
  · intro known other tried msg reaches atEnd answered
    obtain ⟨rfl, rfl⟩ := ends.unique ⟨reaches, .inr atEnd⟩
    exact known atEnd msg answered

theorem succeedsOnAcceptance_of_error {attempt : Attempt TLSConfig}
    (noneAccepted : ∀ tried ∈ servers, ¬ tried.Accepted)
    (failed : attempt.err ≠ none) : attempt.SucceedsOnAcceptance servers where
  nil_iff := by
    refine iff_of_false failed ?_
    rintro ⟨tried, member, accepted⟩
    exact noneAccepted tried member accepted
  first := by
    intro index tried msg reaches answered code
    have member : tried ∈ servers := List.mem_iff_getElem?.mpr ⟨index, reaches.1⟩
    exact absurd ((ServerTry.accepted_iff answered).mpr code)
      (noneAccepted tried member)

theorem succeedsOnAcceptance_of_accepted {before : Attempt TLSConfig}
    (ends : EndsWith servers index last) (accepted : last.Accepted) :
    (tryServer options index last before).classified.SucceedsOnAcceptance
      servers := by
  cases answered : last.connack with
  | none => exact absurd accepted (ServerTry.not_accepted_of_silent answered)
  | some msg =>
      have code := (ServerTry.accepted_iff answered).mp accepted
      have kept : (tryServer options index last before).classified =
          tryServer options index last before := by
        apply classified_of_other
        rw [tryServer_of_connack answered, code]
        exact not_refusalCode_accepted
      rw [kept, tryServer_of_connack answered, if_pos code]
      refine ⟨iff_of_true rfl (ends.accepted_iff.mpr accepted), ?_⟩
      intro other tried otherMsg reaches otherAnswered otherCode
      have otherAccepted := (ServerTry.accepted_iff otherAnswered).mpr otherCode
      obtain ⟨rfl, rfl⟩ := ends.unique ⟨reaches, .inl otherAccepted⟩
      rw [answered] at otherAnswered
      cases otherAnswered
      exact ⟨rfl, rfl⟩

/-- `attemptConnection` does so exactly if the last server, when it comes to be
tried, does not answer a CONNACK with a return code that the client does not
know as a refusal. -/
theorem attemptConnection_succeeds_iff (options : AttemptOptions TLSConfig)
    (serverKp : Int) (nonempty : servers ≠ []) :
    (options.attemptConnection serverKp servers).SucceedsOnAcceptance servers ↔
      ∀ index last msg, Reaches servers index last →
        index + 1 = servers.length → last.connack = some msg →
          msg.returnCode = Server.ReturnCode.accepted ∨
            RefusalCode msg.returnCode := by
  obtain ⟨index, last, before, ends, -, result⟩ :=
    exists_endsWith options serverKp nonempty
  rw [AttemptOptions.attemptConnection, result, ends.forall_last_iff]
  by_cases accepted : last.Accepted
  · refine iff_of_true (succeedsOnAcceptance_of_accepted ends accepted) ?_
    intro _ msg answered
    exact .inl ((ServerTry.accepted_iff answered).mp accepted)
  have noneAccepted := ends.none_accepted accepted
  have atEnd := ends.2.resolve_left accepted
  cases answered : last.connack with
  | none =>
      obtain ⟨err, final⟩ := @tryServer_of_silent _ options index before _ answered
      refine iff_of_true (succeedsOnAcceptance_of_error noneAccepted ?_) ?_
      · rw [classified_of_other (not_refusalCode_of_silent answered), final]
        exact Option.some_ne_none err
      · rintro _ msg ⟨⟩
  | some msg =>
      have notAccepted := (ServerTry.accepted_iff answered).not.mp accepted
      have sameCode : (tryServer options index last before).rc = msg.returnCode := by
        rw [tryServer_of_connack answered]
      constructor
      · rintro succeeds - _ ⟨⟩
        right
        by_contra unknown
        rw [← sameCode] at unknown
        have noError : (tryServer options index last before).classified.err =
            none := by
          rw [classified_of_other unknown, tryServer_of_connack answered]
        exact accepted (ends.accepted_iff.mp (succeeds.nil_iff.mp noError))
      · intro known
        have refusal := (known atEnd msg rfl).resolve_left notAccepted
        rw [← sameCode] at refusal
        obtain ⟨err, classified⟩ := classified_of_refusal refusal
        rw [classified]
        exact succeedsOnAcceptance_of_error noneAccepted (Option.some_ne_none err)

/-- A server that answers with a CONNACK. -/
def answering (returnCode : UInt8) (serverKp : UInt16) : ServerTry where
  server := ⟨.tcp, "localhost", ""⟩
  reply := ⟨true, true, true, ⟨(Server.connackPacket returnCode serverKp).frame⟩⟩

/-- The second of two servers accepts. -/
theorem attemptConnection_succeeds_iff_second :
    (AttemptOptions.mk () none |>.attemptConnection 0
      [answering 2 0, answering 0 30]).SucceedsOnAcceptance
        [answering 2 0, answering 0 30] := by
  refine (attemptConnection_succeeds_iff _ 0 (List.cons_ne_nil _ _)).mpr ?_
  rintro index last msg ⟨found, -⟩ atEnd answered
  obtain rfl : index = 1 := Nat.succ.inj atEnd
  cases found
  have accepts : (answering 0 30).connack =
      some ⟨⟨MessageType.connack, 0, 3⟩, 0, 30⟩ := by
    decide +kernel
  cases accepts.symm.trans answered
  exact .inl rfl

/-- A server that is unavailable says so in a CONNACK, and the client takes the
connection for accepted. -/
theorem unavailable_returns_nil :
    ¬ (AttemptOptions.mk () none |>.attemptConnection 0
      [answering 2 0]).SucceedsOnAcceptance [answering 2 0] := by
  intro succeeds
  have noError : (AttemptOptions.mk () none |>.attemptConnection 0
      [answering 2 0]).err = none := by
    decide +kernel
  have refused : ∀ tried ∈ [answering 2 0], ¬ tried.Accepted := by
    decide +kernel
  obtain ⟨tried, member, accepted⟩ := succeeds.nil_iff.mp noError
  exact refused tried member accepted

end Acceptance

section Closing

theorem eq_of_mem_callHandler {server : ServerURL} {effect : AttemptEffect TLSConfig}
    (member : effect ∈ options.callHandler pass server) :
    ∃ given returned, effect = .onConnectAttempt pass server given returned := by
  unfold AttemptOptions.callHandler at member
  split at member
  · exact ⟨_, _, List.mem_singleton.mp member⟩
  · cases member

theorem ServerTry.dial_mem_effects (opens : tried.opens = true) :
    .dial pass ∈ tried.effects options pass := by
  simp [effects, openConnection_of_opens opens]

/-- A pass dials at most once, and a dial that comes to nothing is closed. -/
theorem ServerTry.of_dial_mem_effects {conn : Nat}
    (dials : .dial conn ∈ tried.effects options pass) :
    conn = pass ∧
      (tried.opens = true ∨ .close conn ∈ tried.effects options pass) := by
  unfold effects at dials ⊢
  rcases List.mem_append.mp dials with made | called
  · cases opened : tried.opens with
    | true =>
        rw [openConnection_of_opens opened] at made
        exact ⟨by simpa using made, .inl rfl⟩
    | false =>
        obtain ⟨err, effects, failed, nothing | closed⟩ :=
          @openConnection_of_fails TLSConfig pass tried opened
        · rw [failed, nothing] at made
          simp at made
        · rw [failed, closed] at made ⊢
          obtain rfl : conn = pass := by simpa using made
          exact ⟨rfl, .inr (by simp)⟩
  · obtain ⟨given, returned, isCall⟩ := eq_of_mem_callHandler called
    cases isCall

theorem ServerTry.of_close_mem_effects {conn : Nat}
    (closes : .close conn ∈ tried.effects options pass) :
    conn = pass ∧ tried.opens = false := by
  unfold effects at closes
  rcases List.mem_append.mp closes with made | called
  · cases opened : tried.opens with
    | true =>
        rw [openConnection_of_opens opened] at made
        simp at made
    | false =>
        obtain ⟨err, effects, failed, nothing | closed⟩ :=
          @openConnection_of_fails TLSConfig pass tried opened
        · rw [failed, nothing] at made
          simp at made
        · rw [failed, closed] at made
          exact ⟨by simpa using made, rfl⟩
  · obtain ⟨given, returned, isCall⟩ := eq_of_mem_callHandler called
    cases isCall

/-- Every connection that was opened is closed, except the one that is returned
when a server has accepted. -/
def Attempt.ClosesOthers (servers : List ServerTry) (attempt : Attempt TLSConfig) :
    Prop :=
  ∀ conn, .dial conn ∈ attempt.effects → .close conn ∈ attempt.effects ∨
    (∃ tried ∈ servers, tried.Accepted) ∧ attempt.conn = some conn

/-- The connection of a pass is kept or closed. -/
def SettlesConnection (servers : List ServerTry) (index : Nat) (tried : ServerTry) :
    Prop :=
  tried.Accepted ∨
    index + 1 = servers.length ∧
      ∃ msg, tried.connack = some msg ∧ RefusalCode msg.returnCode

theorem SettlesConnection.endsWith (settles : SettlesConnection servers index tried)
    (reaches : Reaches servers index tried) : EndsWith servers index tried :=
  ⟨reaches, settles.imp_right And.left⟩

theorem mem_effects_attemptConnection {effect : AttemptEffect TLSConfig} :
    effect ∈ (options.attemptConnection serverKp servers).effects ↔
      (∃ index tried, Reaches servers index tried ∧
        effect ∈ tried.effects options index) ∨
      let loop := tryServers options 0 servers ⟨none, 0, none, serverKp, []⟩
      RefusalCode loop.rc ∧ ∃ conn, loop.conn = some conn ∧ effect = .close conn := by
  rw [AttemptOptions.attemptConnection, mem_effects_classified,
    mem_effects_tryServers]
  simp

theorem conn_of_accepted {before : Attempt TLSConfig} (accepted : last.Accepted) :
    (tryServer options index last before).conn = some index := by
  cases answered : last.connack with
  | none => exact absurd accepted (ServerTry.not_accepted_of_silent answered)
  | some msg => rw [tryServer_of_connack answered]

theorem settles_of_closed {before : Attempt TLSConfig} {conn : Nat}
    (ends : EndsWith servers index last)
    (refusal : RefusalCode (tryServer options index last before).rc)
    (isConn : (tryServer options index last before).conn = some conn) :
    conn = index ∧ SettlesConnection servers index last := by
  cases answered : last.connack with
  | none => exact absurd refusal (not_refusalCode_of_silent answered)
  | some msg =>
      rw [tryServer_of_connack answered] at refusal isConn
      refine ⟨(Option.some.inj isConn).symm, ?_⟩
      rcases ends.2 with accepted | atEnd
      · exact .inl accepted
      · exact .inr ⟨atEnd, msg, answered, refusal⟩

/-- No connection is leaked exactly if every pass that opens one is the last
pass, and its server accepts or refuses in one of the three ways. -/
theorem attemptConnection_closes_iff (options : AttemptOptions TLSConfig)
    (serverKp : Int) (servers : List ServerTry) :
    (options.attemptConnection serverKp servers).ClosesOthers servers ↔
      ∀ index tried, Reaches servers index tried → tried.opens = true →
        SettlesConnection servers index tried := by
  by_cases empty : servers = []
  · subst empty
    refine iff_of_true ?_ ?_
    · intro conn dials
      cases dials
    · rintro index tried ⟨⟨⟩, -⟩
  obtain ⟨last, tried, before, ends, -, result⟩ :=
    exists_endsWith options serverKp empty
  have sameConn : (options.attemptConnection serverKp servers).conn =
      (tryServer options last tried before).conn := by
    rw [AttemptOptions.attemptConnection, result, conn_classified]
  constructor
  · intro closes index opened reaches opens
    have dials : .dial index ∈
        (options.attemptConnection serverKp servers).effects :=
      mem_effects_attemptConnection.mpr
        (.inl ⟨index, opened, reaches, ServerTry.dial_mem_effects opens⟩)
    rcases closes index dials with closed | ⟨accepted, returned⟩
    · rw [mem_effects_attemptConnection, result] at closed
      rcases closed with ⟨pass, other, otherReaches, closed⟩ |
        ⟨refusal, conn, isConn, isClose⟩
      · obtain ⟨rfl, failed⟩ := ServerTry.of_close_mem_effects closed
        cases reaches.unique otherReaches
        cases opens.symm.trans failed
      · cases isClose
        obtain ⟨rfl, settles⟩ := settles_of_closed ends refusal isConn
        cases reaches.unique ends.1
        exact settles
    · have accepts := ends.accepted_iff.mp accepted
      rw [sameConn, conn_of_accepted accepts] at returned
      cases returned
      cases reaches.unique ends.1
      exact .inl accepts
  · intro settled conn dials
    rcases mem_effects_attemptConnection.mp dials with
      ⟨index, opened, reaches, dials⟩ | ⟨_, _, _, ⟨⟩⟩
    obtain ⟨rfl, opens | closed⟩ := ServerTry.of_dial_mem_effects dials
    · have settles := settled conn opened reaches opens
      obtain ⟨rfl, rfl⟩ := ends.unique (settles.endsWith reaches)
      rcases settles with accepted | ⟨-, msg, answered, refusal⟩
      · right
        rw [sameConn]
        exact ⟨ends.accepted_iff.mpr accepted, conn_of_accepted accepted⟩
      · left
        rw [mem_effects_attemptConnection, result]
        right
        rw [tryServer_of_connack answered]
        exact ⟨refusal, conn, rfl, rfl⟩
    · exact .inl (mem_effects_attemptConnection.mpr
        (.inl ⟨conn, opened, reaches, closed⟩))

/-- The first server refuses and the second accepts: the first connection stays
open. -/
theorem refused_connection_leaks :
    ¬ (AttemptOptions.mk () none |>.attemptConnection 0
      [answering 3 0, answering 0 30]).ClosesOthers
        [answering 3 0, answering 0 30] := by
  intro closes
  have effects : (AttemptOptions.mk () none |>.attemptConnection 0
      [answering 3 0, answering 0 30]).effects =
        [.openConnection 0 (answering 3 0).server (), .dial 0,
          .openConnection 1 (answering 0 30).server (), .dial 1] := by
    decide +kernel
  have returned : (AttemptOptions.mk () none |>.attemptConnection 0
      [answering 3 0, answering 0 30]).conn = some 1 := by
    decide +kernel
  rcases closes 0 (by rw [effects]; simp) with closed | ⟨-, isReturned⟩
  · rw [effects] at closed
    simp at closed
  · cases returned.symm.trans isReturned

end Closing

section Override

/-- Each server is dialled with the configuration that the handler has returned
for it before. -/
def Attempt.HonoursOverride (attempt : Attempt TLSConfig) : Prop :=
  ∀ earlier later pass server tlsConfig,
    attempt.effects = earlier ++ .openConnection pass server tlsConfig :: later →
      ∃ given, .onConnectAttempt pass server given tlsConfig ∈ earlier

theorem effects_prefix_tryServers {loop : Attempt TLSConfig} :
    loop.effects <+: (tryServers options pass servers loop).effects := by
  induction servers generalizing pass loop with
  | nil => exact List.prefix_refl _
  | cons first servers induction =>
      have own : loop.effects <+: (tryServer options pass first loop).effects := by
        rw [effects_tryServer]
        exact List.prefix_append _ _
      simp only [tryServers]
      split
      · exact own
      · exact own.trans induction

theorem effects_prefix_classified (attempt : Attempt TLSConfig) :
    attempt.effects <+: attempt.classified.effects := by
  by_cases refusal : RefusalCode attempt.rc
  · obtain ⟨err, classified⟩ := classified_of_refusal refusal
    rw [classified]
    exact List.prefix_append _ _
  · rw [classified_of_other refusal]

/-- The first thing an attempt does is to dial. -/
theorem exists_effects_eq (options : AttemptOptions TLSConfig) (serverKp : Int)
    (first : ServerTry) (servers : List ServerTry) :
    ∃ later, (options.attemptConnection serverKp (first :: servers)).effects =
      .openConnection 0 first.server options.tlsConfig :: later := by
  have firstPass : (first.effects options 0) <+:
      (options.attemptConnection serverKp (first :: servers)).effects := by
    refine List.IsPrefix.trans ?_ (effects_prefix_classified _)
    simp only [tryServers]
    split
    · rw [effects_tryServer]
      exact List.prefix_refl _
    · refine List.IsPrefix.trans ?_ effects_prefix_tryServers
      rw [effects_tryServer]
      exact List.prefix_refl _
  obtain ⟨later, effects⟩ := firstPass
  exact ⟨_, effects.symm⟩

/-- With a handler set, no server is ever dialled with what it returns. -/
theorem attemptConnection_honours_iff (tlsConfig : TLSConfig)
    (handler : Nat → ServerURL → TLSConfig → TLSConfig) (serverKp : Int)
    (servers : List ServerTry) :
    (AttemptOptions.mk tlsConfig (some handler) |>.attemptConnection serverKp
      servers).HonoursOverride ↔ servers = [] := by
  constructor
  · intro honours
    cases servers with
    | nil => rfl
    | cons first servers =>
        obtain ⟨later, effects⟩ := exists_effects_eq
          ⟨tlsConfig, some handler⟩ serverKp first servers
        obtain ⟨given, called⟩ := honours [] later 0 _ _ effects
        cases called
  · rintro rfl earlier later pass server config effects
    cases earlier <;> cases effects

/-- A handler that asks for configuration 7 on top of the default 1. -/
theorem override_comes_too_late :
    (AttemptOptions.mk 1 (some fun _ _ _ => 7) |>.attemptConnection 0
      [answering 0 30]).effects =
        [.openConnection 0 (answering 0 30).server 1, .dial 0,
          .onConnectAttempt 0 (answering 0 30).server 1 7] ∧
      ¬ (AttemptOptions.mk 1 (some fun _ _ _ => 7) |>.attemptConnection 0
        [answering 0 30]).HonoursOverride := by
  have effects : (AttemptOptions.mk 1 (some fun _ _ _ => 7) |>.attemptConnection 0
      [answering 0 30]).effects =
        [.openConnection 0 (answering 0 30).server 1, .dial 0,
          .onConnectAttempt 0 (answering 0 30).server 1 7] := by
    decide +kernel
  refine ⟨effects, ?_⟩
  intro honours
  obtain ⟨given, called⟩ := honours [] _ 0 _ _ effects
  cases called

end Override

end Client

end RmttGo
