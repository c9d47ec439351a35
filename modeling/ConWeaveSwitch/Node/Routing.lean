import ConWeaveSwitch.Mmu.State

/-!
# The switch node and its next-hop choice

`SwitchNode`, its routing table and `GetOutDev` with flow ECMP, DRILL and LetFlow, what a decision
reads from outside the node being the argument `LbInputs` and a failed `assert` giving `none`. The
table never holds an empty list, so ECMP returns a next hop of the destination
(`get_out_dev_next_hop`); DRILL's memory survives `ClearTable` and can return an interface the
entry no longer lists (`drill_returns_forgotten_hop`).
-/

namespace ConWeaveSwitch

set_option autoImplicit false

/-- The fields of `CustomHeader` the forwarding path reads: the addresses, the protocol and the
port pairs of the TCP, UDP and ACK/NACK views, and the priority group of a UDP packet. -/
structure CustomHeader where
  sip : UInt32
  dip : UInt32
  l3Prot : UInt8
  tcpSport : UInt16
  tcpDport : UInt16
  udpSport : UInt16
  udpDport : UInt16
  udpPg : UInt16
  ackSport : UInt16
  ackDport : UInt16
  deriving DecidableEq, Repr

def scrambleBlock (k : UInt32) : UInt32 :=
  let k := k * 0xcc9e2d51
  let k := (k <<< 15) ||| (k >>> 17)
  k * 0x1b873593

def leWord (bytes : List UInt8) : UInt32 :=
  bytes.foldr (fun byte k => (k <<< 8) ||| byte.toUInt32) 0

def hashBlocks : UInt32 → List UInt8 → UInt32 × List UInt8
  | h, b0 :: b1 :: b2 :: b3 :: rest =>
    let h := h ^^^ scrambleBlock (leWord [b0, b1, b2, b3])
    let h := (h <<< 13) ||| (h >>> 19)
    hashBlocks (h + ((h <<< 2) + 0xe6546b64)) rest
  | h, tail => (h, tail)

def ecmpHash (key : List UInt8) (seed : UInt32) : UInt32 :=
  let (h, tail) := hashBlocks seed key
  let h := if tail.isEmpty then h else h ^^^ scrambleBlock (leWord tail)
  let h := h ^^^ UInt32.ofNat key.length
  let h := h ^^^ (h >>> 16)
  let h := h * 0x85ebca6b
  let h := h ^^^ (h >>> 13)
  let h := h * 0xc2b2ae35
  h ^^^ (h >>> 16)

def leBytes (w : UInt32) : List UInt8 :=
  [w.toUInt8, (w >>> 8).toUInt8, (w >>> 16).toUInt8, (w >>> 24).toUInt8]

/-- The third word `DoLbFlowECMP` hashes: the source port in the low half and the destination
port in the high half, read through the view of the packet's protocol; `none` for a protocol other
than TCP, UDP, ACK and NACK, where the code asserts. -/
def portWord (ch : CustomHeader) : Option UInt32 :=
  if ch.l3Prot = 0x6 then some (ch.tcpSport.toUInt32 ||| (ch.tcpDport.toUInt32 <<< 16))
  else if ch.l3Prot = 0x11 then some (ch.udpSport.toUInt32 ||| (ch.udpDport.toUInt32 <<< 16))
  else if ch.l3Prot = 0xFC ∨ ch.l3Prot = 0xFD then
    some (ch.ackSport.toUInt32 ||| (ch.ackDport.toUInt32 <<< 16))
  else none

def controlPkt (ch : CustomHeader) : Bool :=
  ch.l3Prot == 0xFF || ch.l3Prot == 0xFE || ch.l3Prot == 0xFD || ch.l3Prot == 0xFC ||
    ch.l3Prot == 0xFB

/-- `m_rtTable`, from a destination address to its next hops, with the fact that no edit leaves
an empty list in it. -/
structure RoutingTable where
  entries : UInt32 → Option (List Nat)
  nonempty : ∀ {dip nexthops}, entries dip = some nexthops → nexthops ≠ []

namespace RoutingTable

def empty : RoutingTable := ⟨fun _ => none, fun absent => Option.noConfusion absent⟩

def pushBack (table : RoutingTable) (dip : UInt32) (intfIdx : Nat) : RoutingTable where
  entries := Function.update table.entries dip (some ((table.entries dip).getD [] ++ [intfIdx]))
  nonempty := by
    intro d nexthops held
    by_cases same : d = dip
    · subst same
      rw [Function.update_same, Option.some_inj] at held
      rw [← held]
      exact List.append_ne_nil_of_right_ne_nil _ (List.cons_ne_nil _ _)
    · rw [Function.update_noteq same] at held
      exact table.nonempty held

end RoutingTable

structure SwitchNode where
  mmu : SwitchMmu
  ecmpSeed : UInt32
  rtTable : RoutingTable
  txBytes : Nat → UInt64
  rxBytes : Nat → UInt64
  ecnEnabled : Bool
  ackHighPrio : UInt32
  drillCandidate : Nat
  previousBestInterfaceMap : UInt32 → Option Nat
  isToR : Bool
  isToRHostIp : UInt32 → Bool

/-- What one forwarding decision reads from outside the node: the order `std::random_shuffle`
draws (a permutation of its input), the egress queue lengths `CalculateInterfaceLoad` reads, and
the port `m_letflowRouting.RouteInput` picks (`none` for `LETFLOW_NULL`). -/
structure LbInputs where
  shuffle : List Nat → List Nat
  shufflePerm : ∀ nexthops, (shuffle nexthops).Perm nexthops
  load : Nat → UInt32
  letflowRoute : Option Nat

namespace SwitchNode

/-- `CreateObject<SwitchNode>()` for the node with id `id`, over the MMU `CreateObject<SwitchMmu>()`
makes from `raw`: the constructor, then the attribute defaults `EcnEnabled = false` and
`AckHighPrio = 0`. -/
def construct (id : UInt32) (raw : SwitchMmu) : SwitchNode where
  mmu := SwitchMmu.construct raw
  ecmpSeed := id
  rtTable := RoutingTable.empty
  txBytes _ := 0
  rxBytes _ := 0
  ecnEnabled := false
  ackHighPrio := 0
  drillCandidate := 2
  previousBestInterfaceMap _ := none
  isToR := false
  isToRHostIp _ := false

def addTableEntry (node : SwitchNode) (dip : UInt32) (intfIdx : Nat) : SwitchNode :=
  { node with rtTable := node.rtTable.pushBack dip intfIdx }

def clearTable (node : SwitchNode) : SwitchNode :=
  { node with rtTable := RoutingTable.empty }

/-! ## The load balancers -/

def doLbFlowECMP (node : SwitchNode) (ch : CustomHeader) (nexthops : List Nat) : Option Nat :=
  (portWord ch).bind fun ports =>
    let hashVal := ecmpHash (leBytes ch.sip ++ leBytes ch.dip ++ leBytes ports) node.ecmpSeed
    nexthops[hashVal.toNat % nexthops.length]?

def doLbConga (node : SwitchNode) (ch : CustomHeader) (nexthops : List Nat) : Option Nat :=
  node.doLbFlowECMP ch nexthops

def doLbConWeave (node : SwitchNode) (ch : CustomHeader) (nexthops : List Nat) : Option Nat :=
  node.doLbFlowECMP ch nexthops

def doLbLetflow (node : SwitchNode) (inputs : LbInputs) (ch : CustomHeader) (nexthops : List Nat) :
    Option Nat :=
  if node.isToR && nexthops.length == 1 && node.isToRHostIp ch.sip && node.isToRHostIp ch.dip then
    nexthops.head?
  else
    let outPort := match inputs.letflowRoute with
      | some port => some port
      | none => if nexthops.length = 1 then nexthops.head? else none
    outPort.bind fun port => if port ∈ nexthops then some port else none

def drillSample (load : Nat → UInt32) (best : Nat × UInt32) (port : Nat) : Nat × UInt32 :=
  if load port < best.2 then (port, load port) else best

def drillStart (node : SwitchNode) (load : Nat → UInt32) (dip : UInt32) : Nat × UInt32 :=
  match node.previousBestInterfaceMap dip with
  | some previous => (previous, load previous)
  | none => (0, 4294967295)

def drillSampled (node : SwitchNode) (inputs : LbInputs) (nexthops : List Nat) : List Nat :=
  (inputs.shuffle nexthops).take (min node.drillCandidate (inputs.shuffle nexthops).length)

/-- `DoLbDrill`: the least loaded of the remembered interface and the sampled ones, remembered in
`m_previousBestInterfaceMap` for the destination. -/
def doLbDrill (node : SwitchNode) (inputs : LbInputs) (ch : CustomHeader) (nexthops : List Nat) :
    Nat × SwitchNode :=
  let best :=
    ((node.drillSampled inputs nexthops).foldl (drillSample inputs.load)
      (node.drillStart inputs.load ch.dip)).1
  (best, { node with
    previousBestInterfaceMap := Function.update node.previousBestInterfaceMap ch.dip (some best) })

/-- `GetOutDev`: look the destination up, then flow ECMP for `lb_mode` 0 and for control packets,
or the load balancer of `lb_mode`. A missing entry and an unknown mode assert. -/
def getOutDev (settings : Settings) (inputs : LbInputs) (node : SwitchNode) (ch : CustomHeader) :
    Option (Nat × SwitchNode) :=
  (node.rtTable.entries ch.dip).bind fun nexthops =>
    if settings.lbMode = 0 ∨ controlPkt ch = true then
      (node.doLbFlowECMP ch nexthops).map fun out => (out, node)
    else if settings.lbMode = 2 then some (node.doLbDrill inputs ch nexthops)
    else if settings.lbMode = 3 then (node.doLbConga ch nexthops).map fun out => (out, node)
    else if settings.lbMode = 6 then (node.doLbLetflow inputs ch nexthops).map fun out => (out, node)
    else if settings.lbMode = 9 then (node.doLbConWeave ch nexthops).map fun out => (out, node)
    else none

theorem do_lb_flow_ecmp_mem {node : SwitchNode} {ch : CustomHeader} {nexthops : List Nat}
    {out : Nat} (picked : node.doLbFlowECMP ch nexthops = some out) : out ∈ nexthops := by
  rw [doLbFlowECMP, Option.bind_eq_some] at picked
  obtain ⟨_, _, indexed⟩ := picked
  exact List.getElem?_mem indexed

theorem do_lb_flow_ecmp_some (node : SwitchNode) {ch : CustomHeader} {nexthops : List Nat}
    (nonempty : nexthops ≠ []) (supported : (portWord ch).isSome = true) :
    ∃ out, node.doLbFlowECMP ch nexthops = some out := by
  obtain ⟨ports, word⟩ := Option.isSome_iff_exists.mp supported
  have positive : 0 < nexthops.length := List.length_pos.mpr nonempty
  rw [doLbFlowECMP, word, Option.some_bind]
  exact ⟨_, List.getElem?_eq_getElem (Nat.mod_lt _ positive)⟩

theorem drill_sample_fold (load : Nat → UInt32) (sampled : List Nat) (start : Nat × UInt32) :
    (sampled.foldl (drillSample load) start).2 ≤ start.2 ∧
      (∀ port ∈ sampled, (sampled.foldl (drillSample load) start).2 ≤ load port) ∧
      (sampled.foldl (drillSample load) start = start ∨
        (sampled.foldl (drillSample load) start).1 ∈ sampled ∧
          (sampled.foldl (drillSample load) start).2 = load (sampled.foldl (drillSample load) start).1) := by
  induction sampled generalizing start with
  | nil => exact ⟨UInt32.le_refl _, fun _ absent => absurd absent (List.not_mem_nil _), .inl rfl⟩
  | cons port rest ih =>
    obtain ⟨lowered, least, origin⟩ := ih (drillSample load start port)
    have stepLe : (drillSample load start port).2 ≤ start.2 ∧
        (drillSample load start port).2 ≤ load port := by
      unfold drillSample
      split_ifs with smaller
      · exact ⟨(u32_le_iff _ _).mpr ((u32_lt_iff _ _).mp smaller).le, UInt32.le_refl _⟩
      · exact ⟨UInt32.le_refl _, UInt32.not_lt.mp smaller⟩
    refine ⟨UInt32.le_trans lowered stepLe.1, ?_, ?_⟩
    · intro sampledPort member
      rcases List.mem_cons.mp member with rfl | later
      · exact UInt32.le_trans lowered stepLe.2
      · exact least sampledPort later
    · rw [List.foldl_cons]
      rcases origin with same | ⟨member, own⟩
      · rw [same]
        unfold drillSample
        split_ifs
        · exact .inr ⟨List.mem_cons_self _ _, rfl⟩
        · exact .inl rfl
      · exact .inr ⟨List.mem_cons_of_mem _ member, own⟩

theorem do_lb_drill_cases (node : SwitchNode) (inputs : LbInputs) (ch : CustomHeader)
    (nexthops : List Nat) :
    (node.doLbDrill inputs ch nexthops).1 ∈ nexthops ∨
      node.previousBestInterfaceMap ch.dip = some (node.doLbDrill inputs ch nexthops).1 ∨
      node.previousBestInterfaceMap ch.dip = none ∧ (node.doLbDrill inputs ch nexthops).1 = 0 := by
  have sampledSub : node.drillSampled inputs nexthops ⊆ nexthops := fun _ member =>
    (inputs.shufflePerm nexthops).subset (List.mem_of_mem_take member)
  rcases (drill_sample_fold inputs.load (node.drillSampled inputs nexthops)
    (node.drillStart inputs.load ch.dip)).2.2 with start | ⟨member, _⟩
  · have atStart : (node.doLbDrill inputs ch nexthops).1 = (node.drillStart inputs.load ch.dip).1 :=
      congrArg Prod.fst start
    rw [atStart, drillStart]
    cases node.previousBestInterfaceMap ch.dip with
    | none => exact .inr (.inr ⟨rfl, rfl⟩)
    | some previous => exact .inr (.inl rfl)
  · exact .inl (sampledSub member)

/-- With a remembered interface for the destination, DRILL returns an interface no more loaded
than the remembered one and than every interface it sampled. -/
theorem do_lb_drill_least_loaded {node : SwitchNode} {inputs : LbInputs} {ch : CustomHeader}
    {nexthops : List Nat} {previous : Nat}
    (remembered : node.previousBestInterfaceMap ch.dip = some previous) :
    inputs.load (node.doLbDrill inputs ch nexthops).1 ≤ inputs.load previous ∧
      ∀ port ∈ node.drillSampled inputs nexthops,
        inputs.load (node.doLbDrill inputs ch nexthops).1 ≤ inputs.load port := by
  have start : node.drillStart inputs.load ch.dip = (previous, inputs.load previous) := by
    rw [drillStart, remembered]
  obtain ⟨lowered, least, origin⟩ :=
    drill_sample_fold inputs.load (node.drillSampled inputs nexthops) (node.drillStart inputs.load ch.dip)
  have own : inputs.load (node.doLbDrill inputs ch nexthops).1 =
      ((node.drillSampled inputs nexthops).foldl (drillSample inputs.load)
        (node.drillStart inputs.load ch.dip)).2 := by
    rcases origin with same | ⟨_, own⟩
    · change inputs.load ((node.drillSampled inputs nexthops).foldl (drillSample inputs.load)
        (node.drillStart inputs.load ch.dip)).1 = _
      rw [same, start]
    · exact own.symm
  rw [own]
  exact ⟨by simpa only [start] using lowered, least⟩

end SwitchNode

/-- With `lb_mode` 0, 3 or 9, or for a control packet, a routed packet leaves through a next hop
of its destination; with `lb_mode` 2 through a next hop, the interface DRILL remembered for the
destination, or interface 0 when it remembered none. Whenever the destination has an entry, that
entry is not empty and, for the protocols `DoLbFlowECMP` supports, a decision is made. -/
theorem get_out_dev_next_hop {settings : Settings} {inputs : LbInputs} {node : SwitchNode}
    {ch : CustomHeader} {nexthops : List Nat} (entry : node.rtTable.entries ch.dip = some nexthops)
    (mode : settings.lbMode = 0 ∨ settings.lbMode = 2 ∨ settings.lbMode = 3 ∨ settings.lbMode = 9 ∨
      controlPkt ch = true)
    (supported : (portWord ch).isSome = true) :
    nexthops ≠ [] ∧ ∃ out node', node.getOutDev settings inputs ch = some (out, node') ∧
      (out ∈ nexthops ∨ settings.lbMode = 2 ∧ controlPkt ch = false ∧
        (node.previousBestInterfaceMap ch.dip = some out ∨
          node.previousBestInterfaceMap ch.dip = none ∧ out = 0)) := by
  have nonempty := node.rtTable.nonempty entry
  obtain ⟨out, ecmp⟩ := SwitchNode.do_lb_flow_ecmp_some node nonempty supported
  have hop := SwitchNode.do_lb_flow_ecmp_mem ecmp
  refine ⟨nonempty, ?_⟩
  simp only [SwitchNode.getOutDev, entry, Option.some_bind, SwitchNode.doLbConga,
    SwitchNode.doLbConWeave]
  by_cases flow : settings.lbMode = 0 ∨ controlPkt ch = true
  · exact ⟨out, node, by rw [if_pos flow, ecmp]; rfl, .inl hop⟩
  rw [if_neg flow]
  have data : controlPkt ch = false := by simpa using (not_or.mp flow).2
  by_cases drill : settings.lbMode = 2
  · rw [if_pos drill]
    rcases SwitchNode.do_lb_drill_cases node inputs ch nexthops with member | remembered
    · exact ⟨_, _, rfl, .inl member⟩
    · exact ⟨_, _, rfl, .inr ⟨drill, data, remembered⟩⟩
  have other : settings.lbMode = 3 ∨ settings.lbMode = 9 := by
    rcases mode with zero | two | three | nine | control
    · exact absurd (.inl zero) flow
    · exact absurd two drill
    · exact .inl three
    · exact .inr nine
    · exact absurd (.inr control) flow
  rcases other with three | nine
  · exact ⟨out, node, by rw [if_neg drill, if_pos three, ecmp]; rfl, .inl hop⟩
  · have notConga : settings.lbMode ≠ 3 := by rw [nine]; decide
    have notLetflow : settings.lbMode ≠ 6 := by rw [nine]; decide
    exact ⟨out, node, by rw [if_neg drill, if_neg notConga, if_neg notLetflow, if_pos nine, ecmp]; rfl,
      .inl hop⟩

def twoHopNode : SwitchNode :=
  ((SwitchNode.construct 0 SwitchMmu.zeroSwitch).addTableEntry 5 1).addTableEntry 5 2

def udpToFive : CustomHeader := ⟨4, 5, 0x11, 0, 0, 1000, 2000, 3, 0, 0⟩

def idleInputs : LbInputs := ⟨id, List.Perm.refl, fun _ => 0, none⟩

theorem two_hop_next_hop :
    twoHopNode.rtTable.entries udpToFive.dip = some [1, 2] ∧
      (Settings.defaults.lbMode = 0 ∨ Settings.defaults.lbMode = 2 ∨ Settings.defaults.lbMode = 3 ∨
        Settings.defaults.lbMode = 9 ∨ controlPkt udpToFive = true) ∧
      (portWord udpToFive).isSome = true ∧
      ([1, 2] ≠ [] ∧ ∃ out node', twoHopNode.getOutDev Settings.defaults idleInputs udpToFive =
        some (out, node') ∧
        (out ∈ [1, 2] ∨ Settings.defaults.lbMode = 2 ∧ controlPkt udpToFive = false ∧
          (twoHopNode.previousBestInterfaceMap udpToFive.dip = some out ∨
            twoHopNode.previousBestInterfaceMap udpToFive.dip = none ∧ out = 0))) :=
  have entry : twoHopNode.rtTable.entries udpToFive.dip = some [1, 2] := rfl
  have mode : Settings.defaults.lbMode = 0 ∨ Settings.defaults.lbMode = 2 ∨
      Settings.defaults.lbMode = 3 ∨ Settings.defaults.lbMode = 9 ∨ controlPkt udpToFive = true :=
    .inl rfl
  have supported : (portWord udpToFive).isSome = true := rfl
  ⟨entry, mode, supported, get_out_dev_next_hop entry mode supported⟩

def drillMode : Settings := { Settings.defaults with lbMode := 2 }

def skewedInputs : LbInputs := ⟨id, List.Perm.refl, fun port => if port = 2 then 7 else 0, none⟩

def oneHopNode : SwitchNode := (SwitchNode.construct 0 SwitchMmu.zeroSwitch).addTableEntry 5 1

/-- DRILL routes a packet to destination 5 through interface 1 and remembers it; the table is
cleared and rebuilt with interface 2 alone; the next packet still leaves through interface 1, which
is idle, since interface 2 is not strictly less loaded. -/
theorem drill_returns_forgotten_hop :
    ∃ routed rerouted, oneHopNode.getOutDev drillMode skewedInputs udpToFive = some (1, routed) ∧
      (routed.clearTable.addTableEntry 5 2).rtTable.entries udpToFive.dip = some [2] ∧
      (routed.clearTable.addTableEntry 5 2).getOutDev drillMode skewedInputs udpToFive =
        some (1, rerouted) :=
  ⟨_, _, rfl, rfl, rfl⟩

theorem drill_least_loaded_after_rebuild :
    (oneHopNode.doLbDrill skewedInputs udpToFive [1]).2.previousBestInterfaceMap udpToFive.dip =
        some 1 ∧
      skewedInputs.load
          ((oneHopNode.doLbDrill skewedInputs udpToFive [1]).2.doLbDrill skewedInputs udpToFive
            [1, 2]).1 ≤ skewedInputs.load 1 ∧
        ∀ port ∈ (oneHopNode.doLbDrill skewedInputs udpToFive [1]).2.drillSampled skewedInputs [1, 2],
          skewedInputs.load
              ((oneHopNode.doLbDrill skewedInputs udpToFive [1]).2.doLbDrill skewedInputs udpToFive
                [1, 2]).1 ≤ skewedInputs.load port :=
  have remembered :
      (oneHopNode.doLbDrill skewedInputs udpToFive [1]).2.previousBestInterfaceMap udpToFive.dip =
        some 1 := rfl
  ⟨remembered, SwitchNode.do_lb_drill_least_loaded remembered⟩

end ConWeaveSwitch
