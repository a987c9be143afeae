import Mathlib.Logic.Function.Basic
import Mathlib.Data.List.Count
import Zeeder.Foundation.Errexit
import Zeeder.Foundation.StepSystem

/-! # Booting a host

Every boot of a VM runs the startup script that was rendered for an image: it points the resolver at
public servers, redirects `:53` of the public interface to the container's `:1053`, opens that port, and
replaces the `zeeder` container. It also runs on hosts that an older version of it has set up, and is
run again without a reboot in between. Any of its commands may fail and it may be killed at any point.

* **`boot_succeeds_iff`** — on a host whose commands fail only for a reason, a boot comes through exactly
  if the image is stored or can be pulled, and leaves no `zeeder` container otherwise.
* **`boots_keep_rules`** — whatever the boots and wherever they were stopped, no rule is lost and no other
  rule is touched; from the first finished boot on the rules are in place. No rule is stacked and no
  legacy rule is left, as long as `iptables -C` fails for missing rules only.
* **`boots_replace_zeeder`** — no other container is touched, and a finished boot leaves one `zeeder`
  container, of its image. -/

namespace Zeeder.Deploy

open Foundation Foundation.Errexit Foundation.StepSystem

/-! ## Hosts -/

/-- An iptables rule, as the words of its specification. -/
abbrev Rule := List String

/-- The chains that the script works on. -/
inductive Chain where
  /-- `PREROUTING` of the `nat` table. -/
  | prerouting
  /-- `INPUT` of the `filter` table. -/
  | input
  deriving DecidableEq

/-- What `docker run` is asked for. -/
structure ContainerSpec where
  /-- The name. -/
  name : String
  /-- The image reference. -/
  image : String
  /-- All other options. -/
  options : List String
  deriving DecidableEq, Repr

/-- A container on the host. -/
structure Container where
  /-- What it was created from. -/
  spec : ContainerSpec
  /-- Whether it was started. -/
  running : Bool
  deriving DecidableEq, Repr

/-- A host, as far as the script sees it. -/
structure Host where
  /-- Whether `systemd-resolved` runs. -/
  resolved : Bool
  /-- `/etc/resolv.conf`. -/
  resolvConf : String
  /-- The rules of each chain, in order. -/
  chains : Chain → List Rule
  /-- The owner of `/var/lib/zeeder/cache`, if the directory exists. -/
  cacheDir : Option String
  /-- The images that are stored locally. -/
  images : List String
  /-- The containers. -/
  containers : List Container

/-- A chain is replaced. -/
def Host.setChain (host : Host) (chain : Chain) (rules : List Rule) : Host :=
  { host with chains := Function.update host.chains chain rules }

/-- The commands of the script. -/
inductive HostCommand where
  /-- `systemctl stop systemd-resolved`. -/
  | stopResolved
  /-- `printf … > /etc/resolv.conf`. -/
  | writeResolvConf (text : String)
  /-- `iptables -C`. -/
  | check (chain : Chain) (rule : Rule)
  /-- `iptables -D`. -/
  | delete (chain : Chain) (rule : Rule)
  /-- `iptables -A`. -/
  | append (chain : Chain) (rule : Rule)
  /-- `mkdir -p /var/lib/zeeder/cache`. -/
  | makeCacheDir
  /-- `chown … /var/lib/zeeder/cache`. -/
  | chownCacheDir (owner : String)
  /-- `docker pull`. -/
  | pull (image : String)
  /-- `docker rm -f`. -/
  | removeContainer (name : String)
  /-- `docker run -d`. -/
  | runContainer (spec : ContainerSpec)

/-- Whether a command is `iptables -C`. -/
def HostCommand.isCheck : HostCommand → Bool
  | check _ _ => true
  | _ => false

/-- What a command does. `registryUp` says whether the registry can be reached and has the image, `locked`
whether `iptables -C` may fail for a rule that is there, as it does when another process holds the lock
of the tables. A command that fails leaves the host as it was, but for `docker run`: it may have pulled
the image, and created the container without starting it. -/
inductive HostStep (registryUp locked : Bool) : HostCommand → Host → Bool → Host → Prop
  /-- A command fails. -/
  | fails (cmd : HostCommand) (host : Host) (hcmd : locked = true ∨ cmd.isCheck = false) :
      HostStep registryUp locked cmd host false host
  /-- The service is stopped. -/
  | stopResolved (host : Host) :
      HostStep registryUp locked .stopResolved host true { host with resolved := false }
  /-- The file is written. -/
  | writeResolvConf (text : String) (host : Host) :
      HostStep registryUp locked (.writeResolvConf text) host true { host with resolvConf := text }
  /-- A rule is looked up. -/
  | check (chain : Chain) (rule : Rule) (host : Host) :
      HostStep registryUp locked (.check chain rule) host (decide (rule ∈ host.chains chain)) host
  /-- The first rule of this specification is deleted. -/
  | delete (chain : Chain) (rule : Rule) (host : Host) (hmem : rule ∈ host.chains chain) :
      HostStep registryUp locked (.delete chain rule) host true
        (host.setChain chain ((host.chains chain).erase rule))
  /-- A rule is appended. -/
  | append (chain : Chain) (rule : Rule) (host : Host) :
      HostStep registryUp locked (.append chain rule) host true
        (host.setChain chain (host.chains chain ++ [rule]))
  /-- The directory is made, unless it is there. -/
  | makeCacheDir (host : Host) :
      HostStep registryUp locked .makeCacheDir host true
        { host with cacheDir := some (host.cacheDir.getD "root") }
  /-- Its owner is set. -/
  | chownCacheDir (owner : String) (host : Host) :
      HostStep registryUp locked (.chownCacheDir owner) host true { host with cacheDir := some owner }
  /-- The image is pulled. -/
  | pull (image : String) (host : Host) (hup : registryUp = true) :
      HostStep registryUp locked (.pull image) host true { host with images := host.images.insert image }
  /-- The containers of this name are removed. -/
  | removeContainer (name : String) (host : Host) :
      HostStep registryUp locked (.removeContainer name) host true
        { host with containers := host.containers.filter (·.spec.name ≠ name) }
  /-- The image is there, or is pulled now, and then something fails. -/
  | pulledOnly (spec : ContainerSpec) (host : Host)
      (himage : spec.image ∈ host.images ∨ registryUp = true) :
      HostStep registryUp locked (.runContainer spec) host false
        { host with images := host.images.insert spec.image }
  /-- A container is created under a free name, and started or not. -/
  | runContainer (spec : ContainerSpec) (host : Host) (started : Bool)
      (himage : spec.image ∈ host.images ∨ registryUp = true)
      (hfree : ∀ container ∈ host.containers, container.spec.name ≠ spec.name) :
      HostStep registryUp locked (.runContainer spec) host started
        { host with
          images := host.images.insert spec.image
          containers := host.containers ++ [⟨spec, started⟩] }

/-! ## The script -/

/-- `DNS_INGRESS_INTERFACE`. -/
def dnsIngressInterface : String := "eth0"

/-- The protocols of both loops. -/
def protocols : List String := ["udp", "tcp"]

/-- The redirect of one protocol on all interfaces, as an older script has left it. -/
def legacyRule (proto : String) : Rule :=
  ["-p", proto, "--dport", "53", "-j", "REDIRECT", "--to-ports", "1053"]

/-- The redirect of one protocol on the public interface. -/
def scopedRule (proto : String) : Rule :=
  ["-i", dnsIngressInterface, "-p", proto, "--dport", "53", "-j", "REDIRECT", "--to-ports", "1053"]

/-- The rule that lets redirected traffic of one protocol in. -/
def acceptRule (proto : String) : Rule := ["-p", proto, "--dport", "1053", "-j", "ACCEPT"]

/-- The name of the container. -/
def zeederContainer : String := "zeeder"

/-- The options of `docker run`, but for `-d` and the name. -/
def runOptions : List String :=
  ["--network", "host",
    "--restart", "always",
    "--log-driver", "json-file",
    "--log-opt", "max-size=10m",
    "--log-opt", "max-file=3",
    "--volume", "/var/lib/zeeder/cache:/cache",
    "--env", "ZEEDER__DNS__LISTEN_ADDR=0.0.0.0:1053",
    "--env", "ZEEDER__ZONES__MAINNET__DOMAIN=mainnet.seeder.zfnd.org",
    "--env", "ZEEDER__ZONES__MAINNET__NAMESERVER=ns1.zfnd.org",
    "--env", "ZEEDER__ZONES__MAINNET__ADDITIONAL_NAMESERVERS=ns2.zfnd.org,ns3.zfnd.org,ns4.zfnd.org,ns5.zfnd.org,ns6.zfnd.org",
    "--env", "ZEEDER__ZONES__MAINNET__TTL=600",
    "--env", "ZEEDER__ZONES__TESTNET__DOMAIN=testnet.seeder.zfnd.org",
    "--env", "ZEEDER__ZONES__TESTNET__NAMESERVER=ns1.zfnd.org",
    "--env", "ZEEDER__ZONES__TESTNET__ADDITIONAL_NAMESERVERS=ns2.zfnd.org,ns3.zfnd.org,ns4.zfnd.org,ns5.zfnd.org,ns6.zfnd.org",
    "--env", "ZEEDER__ZONES__TESTNET__TTL=300",
    "--env", "ZEEDER__METRICS__ENDPOINT_ADDR=127.0.0.1:9999",
    "--env", "ZEEDER__HEALTH__ENDPOINT_ADDR=127.0.0.1:8080",
    "--env", "ZEEDER__RATE_LIMIT__QUERIES_PER_SECOND=50",
    "--env", "ZEEDER__RATE_LIMIT__BURST_SIZE=100"]

/-- The container that the script starts. -/
def zeederSpec (image : String) : ContainerSpec := ⟨zeederContainer, image, runOptions⟩

/-- The redirect of one protocol. -/
def redirectProto (proto : String) : Errexit HostCommand :=
  .seq (.whileDo (.check .prerouting (legacyRule proto))
      (.run (.delete .prerouting (legacyRule proto))))
    (.orElse (.check .prerouting (scopedRule proto))
      (.run (.append .prerouting (scopedRule proto))))

/-- The open port of one protocol. -/
def acceptProto (proto : String) : Errexit HostCommand :=
  .orElse (.check .input (acceptRule proto)) (.run (.append .input (acceptRule proto)))

/-- The startup script, rendered for an image. -/
def startupScript (image : String) : Errexit HostCommand :=
  inOrder
    [.orElse .stopResolved .skip,
      .run (.writeResolvConf "nameserver 8.8.8.8\nnameserver 8.8.4.4\n"),
      forEach protocols redirectProto,
      forEach protocols acceptProto,
      .run .makeCacheDir,
      .run (.chownCacheDir "65532:65532"),
      .orElse (.pull image) .skip,
      .orElse (.removeContainer zeederContainer) .skip,
      .run (.runContainer (zeederSpec image))]

/-! ## Rules -/

/-- The rules that the script appends to a chain when they are missing. -/
def ownRules : Chain → List Rule
  | .prerouting => protocols.map scopedRule
  | .input => protocols.map acceptRule

/-- The rules that it deletes from a chain. -/
def oldRules : Chain → List Rule
  | .prerouting => protocols.map legacyRule
  | .input => []

/-- No rule is both appended and deleted. -/
theorem ownRules_disjoint (chain : Chain) : ∀ rule ∈ ownRules chain, rule ∉ oldRules chain := by
  cases chain <;> decide

/-- **What boots may do to a chain**: a rule of the script is not lost, and unless `iptables` may have been
locked it is appended where it was missing only; legacy rules get fewer; all other rules stay, in their
order. -/
structure ChainKept (locked : Bool) (ours legacy first rules : List Rule) : Prop where
  /-- The script's own rules are not lost. -/
  own : ∀ rule ∈ ours, first.count rule ≤ rules.count rule
  /-- They are not stacked. -/
  once : locked = false → ∀ rule ∈ ours, rules.count rule ≤ max 1 (first.count rule)
  /-- The legacy rules. -/
  old : ∀ rule ∈ legacy, rules.count rule ≤ first.count rule
  /-- All other rules. -/
  others : rules.filter (· ∉ ours ++ legacy) = first.filter (· ∉ ours ++ legacy)

/-- All chains are kept. -/
def RulesKept (locked : Bool) (first host : Host) : Prop :=
  ∀ chain, ChainKept locked (ownRules chain) (oldRules chain) (first.chains chain) (host.chains chain)

namespace ChainKept

variable {locked locked' : Bool} {ours legacy first rules rules' : List Rule} {rule : Rule}

theorem refl (locked : Bool) (ours legacy rules : List Rule) :
    ChainKept locked ours legacy rules rules :=
  ⟨fun _ _ => Nat.le_refl _, fun _ _ _ => by omega, fun _ _ => Nat.le_refl _, rfl⟩

theorem trans (h : ChainKept locked ours legacy first rules)
    (h' : ChainKept locked' ours legacy rules rules') :
    ChainKept (locked || locked') ours legacy first rules' where
  own rule hrule := Nat.le_trans (h.own rule hrule) (h'.own rule hrule)
  once hfree rule hrule := by
    obtain ⟨hfirst, hthen⟩ := Bool.or_eq_false_iff.mp hfree
    have hless := h.once hfirst rule hrule
    have hless' := h'.once hthen rule hrule
    omega
  old rule hrule := Nat.le_trans (h'.old rule hrule) (h.old rule hrule)
  others := h'.others.trans h.others

/-- A legacy rule is deleted. -/
theorem erase (hrule : rule ∈ legacy) (hown : rule ∉ ours) :
    ChainKept locked ours legacy rules (rules.erase rule) := by
  have hcount {other : Rule} (hother : other ∈ ours) :
      (rules.erase rule).count other = rules.count other := by
    have hne : other ≠ rule := fun heq => hown (heq ▸ hother)
    exact List.count_erase_of_ne hne
  refine ⟨fun other hother => ?_, fun _ other hother => ?_, fun other _ => ?_, ?_⟩
  · exact Nat.le_of_eq (hcount hother).symm
  · rw [hcount hother]
    omega
  · exact List.erase_sublist.count_le other
  · by_cases hmem : rule ∈ rules
    · obtain ⟨before, after, -, hrules, herased⟩ := List.exists_erase_eq hmem
      rw [herased, hrules, List.filter_append, List.filter_append, List.filter_cons_of_neg]
      simp [hrule]
    · rw [List.erase_of_not_mem hmem]

/-- A rule of the script is appended; where it was missing, unless `iptables` may have been locked. -/
theorem append (hrule : rule ∈ ours) (hold : rule ∉ legacy)
    (hmissing : locked = true ∨ rule ∉ rules) :
    ChainKept locked ours legacy rules (rules ++ [rule]) where
  own other _ := (List.sublist_append_left rules [rule]).count_le other
  once hfree other _ := by
    have hmissing : rule ∉ rules := by
      rcases hmissing with hlocked | hmissing
      · exact absurd hlocked (Bool.eq_false_iff.mp hfree)
      · exact hmissing
    have hzero : rules.count rule = 0 := List.count_eq_zero.mpr hmissing
    rw [List.count_append, List.count_singleton]
    by_cases heq : rule = other
    · subst heq
      rw [if_pos (beq_self_eq_true rule), hzero]
      omega
    · rw [if_neg (by simpa using heq)]
      omega
  old other hother := by
    have hne : rule ≠ other := fun heq => hold (heq ▸ hother)
    rw [List.count_append, List.count_singleton, if_neg (by simpa using hne)]
    omega
  others := by simp [List.filter_append, hrule]

end ChainKept

section Rules

variable {locked locked' : Bool} {first host host' : Host} {chain : Chain} {rule : Rule}

theorem RulesKept.of_chains_eq (h : host'.chains = host.chains) : RulesKept locked host host' :=
  fun _ => h ▸ .refl _ _ _ _

theorem RulesKept.trans (h : RulesKept locked first host) (h' : RulesKept locked' host host') :
    RulesKept (locked || locked') first host' := fun chain => (h chain).trans (h' chain)

/-- One more step of a boot. -/
theorem RulesKept.step (h : RulesKept locked first host) (h' : RulesKept locked host host') :
    RulesKept locked first host' := by
  have hboth := h.trans h'
  rwa [Bool.or_self] at hboth

/-- Only one chain changes. -/
theorem RulesKept.setChain {rules : List Rule}
    (h : ChainKept locked (ownRules chain) (oldRules chain) (host.chains chain) rules) :
    RulesKept locked host (host.setChain chain rules) := by
  intro other
  unfold Host.setChain
  dsimp only
  by_cases heq : other = chain
  · subst heq
    rwa [Function.update_self]
  · rw [Function.update_of_ne heq]
    exact .refl _ _ _ _

/-- A legacy rule is deleted. -/
theorem RulesKept.delete (hrule : rule ∈ oldRules chain) :
    RulesKept locked host (host.setChain chain ((host.chains chain).erase rule)) :=
  .setChain (.erase hrule fun hown => ownRules_disjoint chain rule hown hrule)

/-- A rule of the script is appended. -/
theorem RulesKept.append (hrule : rule ∈ ownRules chain)
    (hmissing : locked = true ∨ rule ∉ host.chains chain) :
    RulesKept locked host (host.setChain chain (host.chains chain ++ [rule])) :=
  .setChain (.append hrule (ownRules_disjoint chain rule hrule) hmissing)

end Rules

/-! ## Containers -/

/-- **What boots for some images may do to the containers**: other containers stay, and a `zeeder`
container was there or is of one of the images. -/
structure ContainersKept (images : List String) (first host : Host) : Prop where
  /-- All other containers. -/
  others : host.containers.filter (·.spec.name ≠ zeederContainer)
    = first.containers.filter (·.spec.name ≠ zeederContainer)
  /-- The `zeeder` containers. -/
  zeeder : ∀ container ∈ host.containers, container.spec.name = zeederContainer →
    container ∈ first.containers ∨ ∃ image ∈ images, container.spec = zeederSpec image

/-- There is one `zeeder` container, it runs, and it is of the image. -/
def Serves (image : String) (host : Host) : Prop :=
  host.containers.filter (·.spec.name = zeederContainer) = [⟨zeederSpec image, true⟩]

section Containers

variable {images images' : List String} {image : String} {first host host' : Host}

theorem ContainersKept.of_containers_eq (h : host'.containers = host.containers) :
    ContainersKept images host host' where
  others := by rw [h]
  zeeder container hmem _ := .inl (h ▸ hmem)

theorem ContainersKept.trans (h : ContainersKept images first host)
    (h' : ContainersKept images' host host') : ContainersKept (images ++ images') first host' where
  others := h'.others.trans h.others
  zeeder container hmem hname := by
    rcases h'.zeeder container hmem hname with hbefore | ⟨image, himage, hspec⟩
    · rcases h.zeeder container hbefore hname with hfirst | ⟨image, himage, hspec⟩
      · exact .inl hfirst
      · exact .inr ⟨image, List.mem_append_left _ himage, hspec⟩
    · exact .inr ⟨image, List.mem_append_right _ himage, hspec⟩

theorem ContainersKept.mono (h : ContainersKept images first host) (hsub : images ⊆ images') :
    ContainersKept images' first host where
  others := h.others
  zeeder container hmem hname := (h.zeeder container hmem hname).imp_right
    fun ⟨image, himage, hspec⟩ => ⟨image, hsub himage, hspec⟩

/-- One more step of a boot. -/
theorem ContainersKept.step (h : ContainersKept [image] first host)
    (h' : ContainersKept [image] host host') : ContainersKept [image] first host' :=
  (h.trans h').mono (by simp)

/-- The `zeeder` container is removed. -/
theorem ContainersKept.remove : ContainersKept images host
    { host with containers := host.containers.filter (·.spec.name ≠ zeederContainer) } where
  others := by simp
  zeeder container hmem _ := .inl (List.mem_of_mem_filter hmem)

/-- A `zeeder` container is created. -/
theorem ContainersKept.create (image : String) (pulled : List String) (started : Bool) :
    ContainersKept [image] host { host with
      images := pulled
      containers := host.containers ++ [⟨zeederSpec image, started⟩] } where
  others := by simp [List.filter_append, zeederSpec]
  zeeder container hmem _ := by
    rcases List.mem_append.mp hmem with hbefore | hnew
    · exact .inl hbefore
    · exact .inr ⟨image, List.mem_singleton_self image, by rw [List.mem_singleton.mp hnew]⟩

end Containers

/-! ## One boot -/

section Boot

variable {registryUp locked : Bool} {image : String} {first : Host}

/-- What is left by a boot wherever it stops. -/
def LeftBehind (locked : Bool) (image : String) (first : Host) (_ : Stop) (host : Host) : Prop :=
  RulesKept locked first host ∧ ContainersKept [image] first host

/-- A boot that goes on, with what it has done to the rules so far. -/
def Booting (locked : Bool) (image : String) (first : Host)
    (progress : (Chain → List Rule) → Prop) (host : Host) : Prop :=
  RulesKept locked first host ∧ ContainersKept [image] first host ∧ progress host.chains

/-- The protocols are redirected on the public interface, and unless `iptables` may have been locked on no
other. -/
def Redirected (locked : Bool) (protos : List String) (chains : Chain → List Rule) : Prop :=
  ∀ proto ∈ protos, (locked = false → legacyRule proto ∉ chains .prerouting) ∧
    scopedRule proto ∈ chains .prerouting

/-- The protocols are let in. -/
def Accepted (protos : List String) (chains : Chain → List Rule) : Prop :=
  ∀ proto ∈ protos, acceptRule proto ∈ chains .input

/-- A command that touches neither rules nor containers. -/
def HostCommand.isQuiet : HostCommand → Bool
  | stopResolved | writeResolvConf _ | makeCacheDir | chownCacheDir _ | pull _ => true
  | _ => false

section Steps

variable {cmd : HostCommand} {host host' : Host} {ok : Bool}
  {progress progress' : (Chain → List Rule) → Prop}

theorem HostStep.eq_of_quiet (hstep : HostStep registryUp locked cmd host ok host')
    (hquiet : cmd.isQuiet = true) :
    host'.chains = host.chains ∧ host'.containers = host.containers := by
  cases hstep <;> first | exact ⟨rfl, rfl⟩ | cases hquiet

theorem Booting.leftBehind (h : Booting locked image first progress host) :
    LeftBehind locked image first .cut host := ⟨h.1, h.2.1⟩

theorem Booting.weaken (h : Booting locked image first progress host)
    (hprogress : progress host.chains → progress' host.chains) :
    Booting locked image first progress' host := ⟨h.1, h.2.1, hprogress h.2.2⟩

theorem Booting.quiet (h : Booting locked image first progress host) (hquiet : cmd.isQuiet = true)
    (hstep : HostStep registryUp locked cmd host ok host') :
    Booting locked image first progress host' := by
  obtain ⟨hchains, hcontainers⟩ := hstep.eq_of_quiet hquiet
  exact ⟨h.1.step (.of_chains_eq hchains), h.2.1.trans (.of_containers_eq hcontainers),
    hchains ▸ h.2.2⟩

/-- A command that touches neither rules nor containers. -/
theorem triple_quiet (hquiet : cmd.isQuiet = true) :
    Triple (HostStep registryUp locked) (Booting locked image first progress) (.run cmd)
      (Booting locked image first progress) (LeftBehind locked image first) :=
  .run (fun _ => Booting.leftBehind) (fun _ _ h => h.quiet hquiet)
    fun _ _ h hstep => (h.quiet hquiet hstep).leftBehind

/-- Such a command whose failure does not count. -/
theorem triple_quiet_orTrue (hquiet : cmd.isQuiet = true) :
    Triple (HostStep registryUp locked) (Booting locked image first progress) (.orElse cmd .skip)
      (Booting locked image first progress) (LeftBehind locked image first) :=
  .orTrue (fun _ => Booting.leftBehind) (fun _ => Booting.leftBehind)
    fun _ _ _ h => h.quiet hquiet

/-- A lookup changes nothing. What it finds is there; what it does not find is missing, unless `iptables`
may have been locked. -/
theorem eq_of_check {chain : Chain} {rule : Rule}
    (hstep : HostStep registryUp locked (.check chain rule) host ok host') :
    host' = host ∧ (ok = true → rule ∈ host.chains chain) ∧
      (ok = false → locked = true ∨ rule ∉ host.chains chain) := by
  cases hstep with
  | check => exact ⟨rfl, of_decide_eq_true, fun h => .inr (of_decide_eq_false h)⟩
  | fails _ _ hcmd =>
      refine ⟨rfl, nofun, fun _ => .inl ?_⟩
      rcases hcmd with hlocked | hcheck
      · exact hlocked
      · cases hcheck

/-- **A rule of the script is in place** behind its guard, and appended if it was missing. -/
theorem triple_ensure {chain : Chain} {rule : Rule} (hrule : rule ∈ ownRules chain)
    (hkeeps : ∀ chains, progress chains →
      progress (Function.update chains chain (chains chain ++ [rule]))) :
    Triple (HostStep registryUp locked) (Booting locked image first progress)
      (.orElse (.check chain rule) (.run (.append chain rule)))
      (Booting locked image first fun chains => progress chains ∧ rule ∈ chains chain)
      (LeftBehind locked image first) := by
  refine Triple.orElse (R := Booting locked image first fun chains => progress chains ∧
      (locked = true ∨ rule ∉ chains chain))
    (fun _ => Booting.leftBehind) ?_ ?_ (.run (fun _ => Booting.leftBehind) ?_ ?_)
  · intro host host' h hstep
    obtain ⟨rfl, hfound, -⟩ := eq_of_check hstep
    exact h.weaken fun hprogress => ⟨hprogress, hfound rfl⟩
  · intro host host' h hstep
    obtain ⟨rfl, -, hmissing⟩ := eq_of_check hstep
    exact h.weaken fun hprogress => ⟨hprogress, hmissing rfl⟩
  · rintro host host' ⟨hrules, hcontainers, hprogress, hmissing⟩ hstep
    cases hstep with
    | append =>
        refine ⟨hrules.step (.append hrule hmissing), hcontainers.trans (.of_containers_eq rfl),
          hkeeps _ hprogress, ?_⟩
        simp [Host.setChain]
  · rintro host host' ⟨hrules, hcontainers, -⟩ hstep
    cases hstep with
    | fails => exact ⟨hrules, hcontainers⟩

/-- **A legacy rule is gone** after its loop, unless `iptables` may have been locked. -/
theorem triple_purge {chain : Chain} {rule : Rule} (hrule : rule ∈ oldRules chain)
    (hkeeps : ∀ chains, progress chains →
      progress (Function.update chains chain ((chains chain).erase rule))) :
    Triple (HostStep registryUp locked) (Booting locked image first progress)
      (.whileDo (.check chain rule) (.run (.delete chain rule)))
      (Booting locked image first fun chains => progress chains ∧
        (locked = false → rule ∉ chains chain))
      (LeftBehind locked image first) := by
  refine Triple.whileDo (R := Booting locked image first progress) (fun _ => Booting.leftBehind) ?_
    (.run (fun _ => Booting.leftBehind) ?_ ?_) ?_
  · intro host host' h hstep
    obtain ⟨rfl, -⟩ := eq_of_check hstep
    exact h
  · rintro host host' ⟨hrules, hcontainers, hprogress⟩ hstep
    cases hstep with
    | delete =>
        exact ⟨hrules.step (.delete hrule), hcontainers.trans (.of_containers_eq rfl),
          hkeeps _ hprogress⟩
  · rintro host host' ⟨hrules, hcontainers, -⟩ hstep
    cases hstep with
    | fails => exact ⟨hrules, hcontainers⟩
  · intro host host' h hstep
    obtain ⟨rfl, -, hmissing⟩ := eq_of_check hstep
    refine h.weaken fun hprogress => ⟨hprogress, fun hfree => ?_⟩
    exact (hmissing rfl).resolve_left (Bool.eq_false_iff.mp hfree)

end Steps

/-- Legacy and scoped rules differ. -/
theorem legacyRule_ne_scopedRule (proto proto' : String) : legacyRule proto ≠ scopedRule proto' := by
  simp [legacyRule, scopedRule]

/-- One more protocol is redirected. -/
theorem triple_redirectProto {protos : List String} {proto : String} (hproto : proto ∈ protocols) :
    Triple (HostStep registryUp locked) (Booting locked image first (Redirected locked protos))
      (redirectProto proto) (Booting locked image first (Redirected locked (protos ++ [proto])))
      (LeftBehind locked image first) := by
  have hlegacy : legacyRule proto ∈ oldRules .prerouting := List.mem_map_of_mem hproto
  have hscoped : scopedRule proto ∈ ownRules .prerouting := List.mem_map_of_mem hproto
  have hpurge : Triple (HostStep registryUp locked)
      (Booting locked image first (Redirected locked protos))
      (.whileDo (.check .prerouting (legacyRule proto))
        (.run (.delete .prerouting (legacyRule proto))))
      (Booting locked image first fun chains => Redirected locked protos chains ∧
        (locked = false → legacyRule proto ∉ chains .prerouting)) (LeftBehind locked image first) := by
    refine triple_purge hlegacy fun chains hdone other hother => ?_
    obtain ⟨hgone, hthere⟩ := hdone other hother
    rw [Function.update_self]
    exact ⟨fun hfree hmem => hgone hfree (List.mem_of_mem_erase hmem),
      (List.mem_erase_of_ne (legacyRule_ne_scopedRule proto other).symm).mpr hthere⟩
  have hensure : Triple (HostStep registryUp locked) (Booting locked image first fun chains =>
        Redirected locked protos chains ∧ (locked = false → legacyRule proto ∉ chains .prerouting))
      (.orElse (.check .prerouting (scopedRule proto))
        (.run (.append .prerouting (scopedRule proto))))
      (Booting locked image first fun chains => (Redirected locked protos chains ∧
        (locked = false → legacyRule proto ∉ chains .prerouting)) ∧
          scopedRule proto ∈ chains .prerouting)
      (LeftBehind locked image first) := by
    have hstill {rules : List Rule} {other : String} (hgone : legacyRule other ∉ rules) :
        legacyRule other ∉ rules ++ [scopedRule proto] := by
      simp [hgone, legacyRule_ne_scopedRule]
    refine triple_ensure hscoped fun chains hdone => ⟨fun other hother => ?_, fun hfree => ?_⟩
    · obtain ⟨hgone, hthere⟩ := hdone.1 other hother
      rw [Function.update_self]
      exact ⟨fun hfree => hstill (hgone hfree), List.mem_append_left _ hthere⟩
    · rw [Function.update_self]
      exact hstill (hdone.2 hfree)
  refine (hpurge.seq hensure).weaken (fun _ h => h) (fun host h => h.weaken ?_) fun _ _ h => h
  rintro ⟨⟨hdone, hgone⟩, hthere⟩ other hother
  rcases List.mem_append.mp hother with hother | hlast
  · exact hdone other hother
  · rw [List.mem_singleton.mp hlast]
    exact ⟨hgone, hthere⟩

/-- **The first loop** redirects every protocol. -/
theorem triple_redirect :
    Triple (HostStep registryUp locked) (Booting locked image first (Redirected locked []))
      (forEach protocols redirectProto) (Booting locked image first (Redirected locked protocols))
      (LeftBehind locked image first) := by
  refine Triple.forEach (I := fun protos => Booting locked image first (Redirected locked protos))
    (fun _ => Booting.leftBehind) fun before proto after hsplit => ?_
  exact triple_redirectProto (hsplit ▸ List.mem_append_right _ List.mem_cons_self)

/-- One more protocol is let in. -/
theorem triple_acceptProto {protos : List String} {proto : String} (hproto : proto ∈ protocols) :
    Triple (HostStep registryUp locked)
      (Booting locked image first fun chains =>
        Redirected locked protocols chains ∧ Accepted protos chains)
      (acceptProto proto)
      (Booting locked image first fun chains => Redirected locked protocols chains ∧
        Accepted (protos ++ [proto]) chains) (LeftBehind locked image first) := by
  have haccept : acceptRule proto ∈ ownRules .input := List.mem_map_of_mem hproto
  have hensure : Triple (HostStep registryUp locked)
      (Booting locked image first fun chains =>
        Redirected locked protocols chains ∧ Accepted protos chains)
      (acceptProto proto)
      (Booting locked image first fun chains =>
        (Redirected locked protocols chains ∧ Accepted protos chains) ∧
          acceptRule proto ∈ chains .input) (LeftBehind locked image first) := by
    refine triple_ensure haccept ?_
    rintro chains ⟨hredirected, hdone⟩
    refine ⟨fun other hother => hredirected other hother, fun other hother => ?_⟩
    rw [Function.update_self]
    exact List.mem_append_left _ (hdone other hother)
  refine hensure.weaken (fun _ h => h) (fun host h => h.weaken ?_) fun _ _ h => h
  rintro ⟨⟨hredirected, hdone⟩, hthere⟩
  refine ⟨hredirected, fun other hother => ?_⟩
  rcases List.mem_append.mp hother with hother | hlast
  · exact hdone other hother
  · rw [List.mem_singleton.mp hlast]
    exact hthere

/-- **The second loop** lets every protocol in. -/
theorem triple_accept :
    Triple (HostStep registryUp locked)
      (Booting locked image first fun chains =>
        Redirected locked protocols chains ∧ Accepted [] chains)
      (forEach protocols acceptProto)
      (Booting locked image first fun chains =>
        Redirected locked protocols chains ∧ Accepted protocols chains)
      (LeftBehind locked image first) := by
  refine Triple.forEach (I := fun protos => Booting locked image first fun chains =>
    Redirected locked protocols chains ∧ Accepted protos chains)
    (fun _ => Booting.leftBehind) fun before proto after hsplit => ?_
  exact triple_acceptProto (hsplit ▸ List.mem_append_right _ List.mem_cons_self)

/-- The old container is removed, if that works. -/
theorem triple_remove {progress : (Chain → List Rule) → Prop} :
    Triple (HostStep registryUp locked) (Booting locked image first progress)
      (.orElse (.removeContainer zeederContainer) .skip) (Booting locked image first progress)
      (LeftBehind locked image first) := by
  refine .orTrue (fun _ => Booting.leftBehind) (fun _ => Booting.leftBehind) ?_
  rintro host ok host' ⟨hrules, hcontainers, hprogress⟩ hstep
  cases hstep with
  | fails => exact ⟨hrules, hcontainers, hprogress⟩
  | removeContainer =>
      exact ⟨hrules.step (.of_chains_eq rfl), hcontainers.step .remove, hprogress⟩

/-- What a finished boot leaves. -/
structure Booted (locked : Bool) (image : String) (first host : Host) : Prop where
  /-- What it has done to the rules. -/
  rules : RulesKept locked first host
  /-- What it has done to the containers. -/
  containers : ContainersKept [image] first host
  /-- Every protocol is redirected. -/
  redirected : Redirected locked protocols host.chains
  /-- Every protocol is let in. -/
  accepted : Accepted protocols host.chains
  /-- The container runs. -/
  serves : Serves image host

/-- **The new container** runs if `docker run` succeeds; if it fails, no other container is touched. -/
theorem triple_run :
    Triple (HostStep registryUp locked)
      (Booting locked image first fun chains =>
        Redirected locked protocols chains ∧ Accepted protocols chains)
      (.run (.runContainer (zeederSpec image))) (Booted locked image first)
      (LeftBehind locked image first) := by
  refine .run (fun _ => Booting.leftBehind) ?_ ?_
  · rintro host host' ⟨hrules, hcontainers, hredirected, haccepted⟩ hstep
    cases hstep with
    | runContainer _ _ _ _ hfree =>
        refine ⟨hrules.step (.of_chains_eq rfl), hcontainers.step (.create ..), hredirected,
          haccepted, ?_⟩
        have hnone : host.containers.filter (·.spec.name = zeederContainer) = [] := by
          refine List.filter_eq_nil_iff.mpr fun container hmem => ?_
          have hname : container.spec.name ≠ zeederContainer := hfree container hmem
          simpa using hname
        show List.filter _ (host.containers ++ _) = _
        rw [List.filter_append, hnone, List.nil_append]
        rfl
  · rintro host host' ⟨hrules, hcontainers, -⟩ hstep
    cases hstep with
    | fails => exact ⟨hrules, hcontainers⟩
    | pulledOnly => exact ⟨hrules.step (.of_chains_eq rfl), hcontainers.step (.of_containers_eq rfl)⟩
    | runContainer =>
        exact ⟨hrules.step (.of_chains_eq rfl), hcontainers.step (.create ..)⟩

/-- **One boot**: what it leaves when it is over, and wherever it is stopped. -/
theorem triple_startupScript :
    Triple (HostStep registryUp locked) (fun host => host = first) (startupScript image)
      (Booted locked image first) (LeftBehind locked image first) := by
  have hstart : ∀ host, host = first → Booting locked image first (Redirected locked []) host := by
    rintro host rfl
    exact ⟨.of_chains_eq rfl, .of_containers_eq rfl, fun _ hmem => absurd hmem List.not_mem_nil⟩
  have hempty : ∀ host, Booting locked image first (Redirected locked protocols) host →
      Booting locked image first
        (fun chains => Redirected locked protocols chains ∧ Accepted [] chains) host :=
    fun host h => h.weaken fun hdone => ⟨hdone, fun _ hmem => absurd hmem List.not_mem_nil⟩
  refine Triple.weaken (P := Booting locked image first (Redirected locked [])) ?_ hstart (fun _ h => h)
    fun _ _ h => h
  simp only [startupScript, inOrder, List.foldr_cons, List.foldr_nil]
  refine .seq (triple_quiet_orTrue rfl) (.seq (triple_quiet rfl) (.seq triple_redirect ?_))
  refine Triple.weaken (.seq triple_accept ?_) hempty (fun _ h => h) fun _ _ h => h
  refine .seq (triple_quiet rfl) (.seq (triple_quiet rfl) (.seq (triple_quiet_orTrue rfl) ?_))
  exact .seq triple_remove (.seq triple_run (.skip fun host h => ⟨h.rules, h.containers⟩))

end Boot

/-! ## Sound hosts -/

/-- The image is stored locally, or can be pulled. -/
def Available (registryUp : Bool) (image : String) (host : Host) : Prop :=
  image ∈ host.images ∨ registryUp = true

instance (registryUp : Bool) (image : String) (host : Host) :
    Decidable (Available registryUp image host) := inferInstanceAs (Decidable (_ ∨ _))

/-- What a command fails for on a sound host: a rule that is not there, a registry that does not help, a
container that is not there, a name that is taken, or an image that is not available. Nothing is said of
the service. -/
def FailsFor (registryUp : Bool) : HostCommand → Host → Prop
  | .stopResolved, _ => True
  | .check chain rule, host => rule ∉ host.chains chain
  | .delete chain rule, host => rule ∉ host.chains chain
  | .pull _, _ => registryUp = false
  | .removeContainer name, host => ∀ container ∈ host.containers, container.spec.name ≠ name
  | .runContainer spec, host => ¬ Available registryUp spec.image host ∨
      ∃ container ∈ host.containers, container.spec.name = spec.name
  | _, _ => False

/-- What a command does on a sound host. -/
def SoundStep (registryUp : Bool) (cmd : HostCommand) (host : Host) (ok : Bool) (host' : Host) : Prop :=
  HostStep registryUp false cmd host ok host' ∧ (ok = false → FailsFor registryUp cmd host)

/-- A sound host on which the service can be stopped. -/
def soundStep (registryUp : Bool) : HostCommand → Host → Bool × Host
  | .stopResolved, host => (true, { host with resolved := false })
  | .writeResolvConf text, host => (true, { host with resolvConf := text })
  | .check chain rule, host => (decide (rule ∈ host.chains chain), host)
  | .delete chain rule, host =>
      if rule ∈ host.chains chain then
        (true, host.setChain chain ((host.chains chain).erase rule))
      else (false, host)
  | .append chain rule, host => (true, host.setChain chain (host.chains chain ++ [rule]))
  | .makeCacheDir, host => (true, { host with cacheDir := some (host.cacheDir.getD "root") })
  | .chownCacheDir owner, host => (true, { host with cacheDir := some owner })
  | .pull image, host =>
      if registryUp then (true, { host with images := host.images.insert image }) else (false, host)
  | .removeContainer name, host =>
      if ∀ container ∈ host.containers, container.spec.name ≠ name then (false, host)
      else (true, { host with containers := host.containers.filter (·.spec.name ≠ name) })
  | .runContainer spec, host =>
      if Available registryUp spec.image host ∧
          ∀ container ∈ host.containers, container.spec.name ≠ spec.name then
        (true, { host with
          images := host.images.insert spec.image
          containers := host.containers ++ [⟨spec, true⟩] })
      else (false, host)

/-- Such a host is sound. -/
theorem soundStep_sound (registryUp : Bool) (cmd : HostCommand) (host : Host) :
    SoundStep registryUp cmd host (soundStep registryUp cmd host).1
      (soundStep registryUp cmd host).2 := by
  cases cmd with
  | stopResolved => exact ⟨.stopResolved host, fun h => by cases h⟩
  | writeResolvConf text => exact ⟨.writeResolvConf text host, fun h => by cases h⟩
  | check chain rule => exact ⟨.check chain rule host, of_decide_eq_false⟩
  | delete chain rule =>
      rw [soundStep]
      split
      · next hmem => exact ⟨.delete chain rule host hmem, fun h => by cases h⟩
      · next hmem => exact ⟨.fails _ host (.inr rfl), fun _ => hmem⟩
  | append chain rule => exact ⟨.append chain rule host, fun h => by cases h⟩
  | makeCacheDir => exact ⟨.makeCacheDir host, fun h => by cases h⟩
  | chownCacheDir owner => exact ⟨.chownCacheDir owner host, fun h => by cases h⟩
  | pull image =>
      rw [soundStep]
      split
      · next hup => exact ⟨.pull image host hup, fun h => by cases h⟩
      · next hup => exact ⟨.fails _ host (.inr rfl), fun _ => Bool.eq_false_iff.mpr hup⟩
  | removeContainer name =>
      rw [soundStep]
      split
      · next hnone => exact ⟨.fails _ host (.inr rfl), fun _ => hnone⟩
      · exact ⟨.removeContainer name host, fun h => by cases h⟩
  | runContainer spec =>
      rw [soundStep]
      split
      · next hthere => exact ⟨.runContainer spec host true hthere.1 hthere.2, fun h => by cases h⟩
      · next hthere =>
          refine ⟨.fails _ host (.inr rfl), fun _ => ?_⟩
          rcases not_and_or.mp hthere with hmissing | htaken
          · exact .inl hmissing
          · exact .inr (by simpa using htaken)

/-- A host that an older script has set up, next to a monitoring agent. -/
def exampleHost : Host where
  resolved := true
  resolvConf := "nameserver 127.0.0.53\n"
  chains
    | .prerouting => [legacyRule "udp", ["-j", "DOCKER"], legacyRule "udp", scopedRule "tcp"]
    | .input => [["-i", "lo", "-j", "ACCEPT"], acceptRule "udp"]
  cacheDir := none
  images := ["zeeder:1", "agent"]
  containers := [⟨⟨"zeeder", "zeeder:1", []⟩, true⟩, ⟨⟨"agent", "agent", []⟩, true⟩]

/-- What may happen while nobody holds the lock may happen. -/
theorem HostStep.unlock {registryUp ok : Bool} {cmd : HostCommand} {host host' : Host}
    (h : HostStep registryUp false cmd host ok host') : HostStep registryUp true cmd host ok host' := by
  cases h with
  | fails _ _ hcmd => exact .fails cmd _ (.inl rfl)
  | _ => constructor <;> assumption

/-- The same host while `iptables -C` always fails. -/
def lockedStep (registryUp : Bool) : HostCommand → Host → Bool × Host
  | .check _ _, host => (false, host)
  | cmd, host => soundStep registryUp cmd host

/-- What it does is what a host may do. -/
theorem lockedStep_hostStep (registryUp : Bool) (cmd : HostCommand) (host : Host) :
    HostStep registryUp true cmd host (lockedStep registryUp cmd host).1
      (lockedStep registryUp cmd host).2 := by
  cases cmd with
  | check chain rule => exact .fails _ host (.inl rfl)
  | _ => exact (soundStep_sound registryUp _ host).1.unlock

/-- How a boot ends on a host whose commands are computed, and what it leaves. A boot that goes on for too
long counts as killed before its first command. -/
def bootWith (step : HostCommand → Host → Bool × Host) (image : String) (host : Host) : Ending × Host :=
  (eval step 4 (startupScript image) host).getD (.stopped .cut, host)

/-- What it leaves is left by an execution. -/
theorem exec_bootWith {act : HostCommand → Host → Bool → Host → Prop}
    {step : HostCommand → Host → Bool × Host}
    (hact : ∀ cmd host, act cmd host (step cmd host).1 (step cmd host).2) (image : String)
    (host : Host) :
    Exec act (startupScript image) host (bootWith step image host).1 (bootWith step image host).2 := by
  unfold bootWith
  cases heval : eval step 4 (startupScript image) host with
  | none => exact .cut _ host
  | some left => exact exec_of_eval hact heval

/-- A boot of a sound host. -/
def bootOf (registryUp : Bool) : String → Host → Ending × Host := bootWith (soundStep registryUp)

theorem exec_bootOf (registryUp : Bool) (image : String) (host : Host) :
    Exec (SoundStep registryUp) (startupScript image) host (bootOf registryUp image host).1
      (bootOf registryUp image host).2 := exec_bootWith (soundStep_sound registryUp) image host

/-- The example host, booted for a new image. -/
def exampleRolled : Host := (bootOf true "zeeder:2" exampleHost).2

/-- And then for an image that cannot be had. -/
def exampleStranded : Host := (bootOf false "zeeder:3" exampleRolled).2

/-- And then for the image that is stored, while `iptables` is locked. -/
def exampleLocked : Host := (bootWith (lockedStep false) "zeeder:2" exampleStranded).2

section Sound

variable {registryUp locked : Bool} {image : String} {host host' : Host} {cmd : HostCommand} {ok : Bool}
  {ending : Ending}

/-- No command makes an image available or unavailable. -/
theorem available_iff_of_step (hstep : HostStep registryUp locked cmd host ok host') :
    Available registryUp image host' ↔ Available registryUp image host := by
  unfold Available
  have hpulled {spec : String} (himage : spec ∈ host.images ∨ registryUp = true) :
      image ∈ host.images.insert spec ∨ registryUp = true ↔
        image ∈ host.images ∨ registryUp = true := by
    rw [List.mem_insert_iff]
    refine ⟨?_, fun h => h.imp_left .inr⟩
    rintro ((rfl | hmem) | hup)
    · exact himage
    · exact .inl hmem
    · exact .inr hup
  cases hstep with
  | pull _ _ hup => exact hpulled (.inr hup)
  | pulledOnly spec _ himage => exact hpulled himage
  | runContainer spec _ _ himage => exact hpulled himage
  | _ => exact Iff.rfl

/-- Whatever the script does, the image is as available as it was. -/
theorem available_iff_of_exec {script : Errexit HostCommand}
    (hexec : Exec (HostStep registryUp locked) script host ending host') :
    Available registryUp image host' ↔ Available registryUp image host :=
  hexec.keeps (P := fun s => Available registryUp image s ↔ Available registryUp image host)
    (fun _ _ _ _ hs hstep => (available_iff_of_step hstep).trans hs) Iff.rfl

/-- A script that is killed at most. -/
def KilledOnly (registryUp : Bool) (script : Errexit HostCommand) : Prop :=
  Triple (SoundStep registryUp) (fun _ => True) script (fun _ => True) fun why _ => why = .cut

theorem KilledOnly.seq {a b : Errexit HostCommand} (ha : KilledOnly registryUp a)
    (hb : KilledOnly registryUp b) : KilledOnly registryUp (.seq a b) := Triple.seq ha hb

theorem KilledOnly.forEach {items : List String} {body : String → Errexit HostCommand}
    (hbody : ∀ item, KilledOnly registryUp (body item)) :
    KilledOnly registryUp (Errexit.forEach items body) :=
  Triple.forEach (I := fun _ _ => True) (fun _ _ => rfl) fun _ item _ _ => hbody item

/-- A command that does not fail. -/
theorem KilledOnly.run (hsound : ∀ host, ¬ FailsFor registryUp cmd host) :
    KilledOnly registryUp (.run cmd) :=
  Triple.run (fun _ _ => rfl) (fun _ _ _ _ => trivial)
    fun host _ _ hstep => absurd (hstep.2 rfl) (hsound host)

/-- `cmd || true`. -/
theorem KilledOnly.orTrue (cmd : HostCommand) : KilledOnly registryUp (.orElse cmd .skip) :=
  Triple.orTrue (fun _ _ => rfl) (fun _ _ => rfl) fun _ _ _ _ _ => trivial

/-- A rule that is missing can be appended. -/
theorem KilledOnly.ensure (chain : Chain) (rule : Rule) :
    KilledOnly registryUp (.orElse (.check chain rule) (.run (.append chain rule))) :=
  Triple.orElse (R := fun _ => True) (fun _ _ => rfl) (fun _ _ _ _ => trivial)
    (fun _ _ _ _ => trivial) (KilledOnly.run fun _ h => h)

/-- A rule that was found can be deleted. -/
theorem KilledOnly.purge (chain : Chain) (rule : Rule) :
    KilledOnly registryUp (.whileDo (.check chain rule) (.run (.delete chain rule))) := by
  refine Triple.whileDo (R := fun host => rule ∈ host.chains chain) (fun _ _ => rfl) ?_
    (.run (fun _ _ => rfl) (fun _ _ _ _ => trivial) ?_) fun _ _ _ _ => trivial
  · rintro host host' - ⟨hstep, -⟩
    obtain ⟨rfl, hfound, -⟩ := eq_of_check hstep
    exact hfound rfl
  · rintro host host' hmem ⟨-, hfails⟩
    exact absurd hmem (hfails rfl)

/-- No `zeeder` container is left. -/
def NoZeeder (host : Host) : Prop :=
  ∀ container ∈ host.containers, container.spec.name ≠ zeederContainer

/-- On a sound host, removing the old container works or is not needed. -/
theorem triple_remove_sound :
    Triple (SoundStep registryUp) (fun _ => True) (.orElse (.removeContainer zeederContainer) .skip)
      NoZeeder fun why _ => why = .cut := by
  refine .orTrue (fun _ _ => rfl) (fun _ _ => rfl) ?_
  rintro host ok host' - ⟨hstep, hfails⟩
  cases hstep with
  | fails => exact hfails rfl
  | removeContainer =>
      intro container hmem
      exact of_decide_eq_true (List.mem_filter.mp hmem).2

/-- Where no `zeeder` container is left, `docker run` works exactly if the image is available, and
leaves none if it fails. -/
theorem triple_run_sound :
    Triple (SoundStep registryUp) NoZeeder (.run (.runContainer (zeederSpec image)))
      (Available registryUp image)
      fun why host => why = .failed → ¬ Available registryUp image host ∧ NoZeeder host := by
  refine .run (fun _ _ hwhy => by cases hwhy) ?_ ?_
  · rintro host host' - ⟨hstep, -⟩
    refine (available_iff_of_step hstep).mpr ?_
    cases hstep with
    | runContainer _ _ _ himage => exact himage
  · rintro host host' hnone ⟨hstep, hfails⟩ -
    have hmissing : ¬ Available registryUp image host := by
      rcases hfails rfl with hmissing | ⟨container, hmem, hname⟩
      · exact hmissing
      · exact absurd hname (hnone container hmem)
    refine ⟨(available_iff_of_step hstep).not.mpr hmissing, ?_⟩
    cases hstep with
    | fails => exact hnone
    | pulledOnly _ _ himage => exact absurd himage hmissing
    | runContainer _ _ _ himage => exact absurd himage hmissing

/-- A boot of a sound host. -/
theorem triple_startupScript_sound :
    Triple (SoundStep registryUp) (fun _ => True) (startupScript image) (Available registryUp image)
      fun why host => why = .failed → ¬ Available registryUp image host ∧ NoZeeder host := by
  have hearly : ∀ why (host : Host), why = Stop.cut → why = .failed →
      ¬ Available registryUp image host ∧ NoZeeder host := by
    rintro why host rfl hwhy
    cases hwhy
  have hredirect (proto : String) : KilledOnly registryUp (redirectProto proto) :=
    (KilledOnly.purge _ _).seq (.ensure _ _)
  have hrules : KilledOnly registryUp (forEach protocols redirectProto) := .forEach hredirect
  have hports : KilledOnly registryUp (forEach protocols acceptProto) :=
    .forEach fun _ => .ensure _ _
  have hkilled {script : Errexit HostCommand} (h : KilledOnly registryUp script) :=
    Triple.weaken h (fun _ h => h) (fun _ h => h) hearly
  simp only [startupScript, inOrder, List.foldr_cons, List.foldr_nil]
  refine .seq (hkilled (.orTrue _)) (.seq (hkilled (.run fun _ h => h)) (.seq (hkilled hrules) ?_))
  refine .seq (hkilled hports) (.seq (hkilled (.run fun _ h => h)) ?_)
  refine .seq (hkilled (.run fun _ h => h)) (.seq (hkilled (.orTrue _)) ?_)
  refine .seq (triple_remove_sound.weaken (fun _ h => h) (fun _ h => h) hearly) ?_
  exact .seq triple_run_sound (.skip fun _ _ hwhy => by cases hwhy)

end Sound

/-! ### Halting -/

section Halts

variable {registryUp locked : Bool}

/-- The loop over a legacy rule deletes one copy of it in each turn. -/
theorem halts_purge (chain : Chain) (rule : Rule) (host : Host) :
    Halts (HostStep registryUp locked) (.whileDo (.check chain rule) (.run (.delete chain rule)))
      host := by
  refine halts_whileDo (fun s => (s.chains chain).count rule) (fun s t _ => .run _ t) ?_ host
  intro s t u hcheck hdelete
  obtain ⟨rfl, -⟩ := eq_of_check hcheck
  cases hdelete with
  | runDone hstep =>
      cases hstep with
      | delete _ _ _ hmem =>
          have hpos := List.count_pos_iff.mpr hmem
          simp only [Host.setChain, Function.update_self, List.count_erase_self]
          omega

/-- **No boot goes on forever**, whatever rules the host has. -/
theorem halts_startupScript (image : String) (host : Host) :
    Halts (HostStep registryUp locked) (startupScript image) host := by
  have htested {cmd other : HostCommand} (s : Host) :
      Halts (HostStep registryUp locked) (.orElse cmd (.run other)) s := .orElse fun t _ => .run other t
  have htrue {cmd : HostCommand} (s : Host) :
      Halts (HostStep registryUp locked) (.orElse cmd .skip) s := .orElse fun t _ => .skip t
  have hredirects (s : Host) : Halts (HostStep registryUp locked) (forEach protocols redirectProto) s :=
    halts_forEach (fun proto _ s => .seq (halts_purge _ _ s) fun t _ => htested t) s
  have hports (s : Host) : Halts (HostStep registryUp locked) (forEach protocols acceptProto) s :=
    halts_forEach (fun proto _ s => htested s) s
  simp only [startupScript, inOrder, List.foldr_cons, List.foldr_nil]
  refine .seq (htrue _) fun s _ => .seq (.run _ _) fun s _ => .seq (hredirects s) fun s _ => ?_
  refine .seq (hports s) fun s _ => .seq (.run _ _) fun s _ => .seq (.run _ _) fun s _ => ?_
  exact .seq (htrue _) fun s _ => .seq (htrue _) fun s _ => .seq (.run _ _) fun s _ => .skip s

end Halts

/-- **When a boot comes through.** On a sound host, whatever rules and containers older scripts have
left: a boot does not go on forever; unless it is killed, it comes through exactly if its image is
stored locally or can be pulled; and if it fails, no `zeeder` container is left. -/
theorem boot_succeeds_iff {registryUp : Bool} {image : String} {host host' : Host} {ending : Ending}
    (hboot : Exec (SoundStep registryUp) (startupScript image) host ending host')
    (hkilled : ending ≠ .stopped .cut) :
    (∀ locked, Halts (HostStep registryUp locked) (startupScript image) host) ∧
      (ending = .done ↔ Available registryUp image host) ∧
      (ending = .stopped .failed → NoZeeder host') := by
  have havailable : Available registryUp image host' ↔ Available registryUp image host :=
    available_iff_of_exec (hboot.mono fun _ _ _ _ hstep => hstep.1)
  have hleft := triple_startupScript_sound host ending host' trivial hboot
  refine ⟨fun _ => halts_startupScript image host, ?_, ?_⟩
  · rw [← havailable]
    constructor
    · rintro rfl
      exact hleft
    · intro hthere
      match ending with
      | .done => rfl
      | .stopped .cut => exact absurd rfl hkilled
      | .stopped .failed => exact absurd hthere (hleft rfl).1
  · rintro rfl
    exact (hleft rfl).2

/-- A boot of the example host for a new image comes through; the next one, for an image that cannot be
had, fails. -/
theorem boot_succeeds_iff_exampleHost :
    (bootOf true "zeeder:2" exampleHost).1 = .done ∧
      (bootOf false "zeeder:3" exampleRolled).1 = .stopped .failed ∧ NoZeeder exampleStranded := by
  have hdone : (bootOf true "zeeder:2" exampleHost).1 ≠ .stopped .cut := by decide +kernel
  have hfailed : (bootOf false "zeeder:3" exampleRolled).1 = .stopped .failed := by decide +kernel
  have hrolled := boot_succeeds_iff (exec_bootOf true "zeeder:2" exampleHost) hdone
  have hstranded := boot_succeeds_iff (exec_bootOf false "zeeder:3" exampleRolled)
    (by rw [hfailed]; simp)
  exact ⟨hrolled.2.1.mpr (.inr rfl), hfailed, hstranded.2.2 hfailed⟩

/-! ## Boot after boot -/

/-- One execution of the script. -/
structure Boot where
  /-- Whether the registry could be reached and had the image. -/
  registryUp : Bool
  /-- Whether `iptables` may have been locked. -/
  locked : Bool
  /-- The image that the script was rendered for. -/
  image : String
  /-- How it ended. -/
  ending : Ending
  deriving DecidableEq

/-- Any host, and boot after boot of it. -/
def bootSystem : StepSystem Host Boot where
  Init _ := True
  Step host boot host' :=
    Exec (HostStep boot.registryUp boot.locked) (startupScript boot.image) host boot.ending host'

/-- The example host is booted for a new image. -/
theorem exampleRolled_step :
    bootSystem.Step exampleHost ⟨true, false, "zeeder:2", .done⟩ exampleRolled := by
  have hdone : (bootOf true "zeeder:2" exampleHost).1 = .done := by decide +kernel
  have hboot := (exec_bootOf true "zeeder:2" exampleHost).mono fun _ _ _ _ hstep => hstep.1
  rwa [hdone] at hboot

/-- And then for one that cannot be had. -/
theorem exampleStranded_step :
    bootSystem.Step exampleRolled ⟨false, false, "zeeder:3", .stopped .failed⟩ exampleStranded := by
  have hfailed : (bootOf false "zeeder:3" exampleRolled).1 = .stopped .failed := by decide +kernel
  have hboot := (exec_bootOf false "zeeder:3" exampleRolled).mono fun _ _ _ _ hstep => hstep.1
  rwa [hfailed] at hboot

/-- And then for the image that is stored, while `iptables` is locked. -/
theorem exampleLocked_step :
    bootSystem.Step exampleStranded ⟨false, true, "zeeder:2", .done⟩ exampleLocked := by
  have hdone : (bootWith (lockedStep false) "zeeder:2" exampleStranded).1 = .done := by decide +kernel
  have hboot := exec_bootWith (lockedStep_hostStep false) "zeeder:2" exampleStranded
  rwa [hdone] at hboot

section Runs

variable {boots : List Boot} {boot : Boot} {first host host' : Host} {locked locked' : Bool}

/-- What a boot has left behind, in any case. -/
theorem leftBehind_of_step (hstep : bootSystem.Step host boot host') :
    RulesKept boot.locked host host' ∧ ContainersKept [boot.image] host host' := by
  have hleft := triple_startupScript host boot.ending host' rfl hstep
  cases hending : boot.ending with
  | done =>
      rw [hending] at hleft
      exact ⟨hleft.rules, hleft.containers⟩
  | stopped why =>
      rw [hending] at hleft
      exact hleft

/-- What a finished boot has left. -/
theorem booted_of_step (hstep : bootSystem.Step host boot host') (hdone : boot.ending = .done) :
    Booted boot.locked boot.image host host' := by
  have hleft := triple_startupScript host boot.ending host' rfl hstep
  rwa [hdone] at hleft

/-- What boots have left behind. Induction on the run, from its end. -/
theorem leftBehind_of_run (hrun : bootSystem.Run first boots host) :
    RulesKept (boots.any Boot.locked) first host ∧
      ContainersKept (boots.map Boot.image) first host := by
  induction hrun with
  | nil => exact ⟨.of_chains_eq rfl, .of_containers_eq rfl⟩
  | @snoc t u boots boot _ hstep ih =>
      obtain ⟨hrules, hcontainers⟩ := leftBehind_of_step hstep
      have hlocked : (boots ++ [boot]).any Boot.locked = (boots.any Boot.locked || boot.locked) := by
        simp
      rw [List.map_append, hlocked]
      exact ⟨ih.1.trans hrules, ih.2.trans hcontainers⟩

/-- What is in place stays in place, and what is gone stays away. -/
theorem RulesKept.ready (h : RulesKept locked first host)
    (hredirected : Redirected locked' protocols first.chains)
    (haccepted : Accepted protocols first.chains) :
    Redirected locked' protocols host.chains ∧ Accepted protocols host.chains := by
  have hown {chain : Chain} {rule : Rule} (hrule : rule ∈ ownRules chain)
      (hmem : rule ∈ first.chains chain) : rule ∈ host.chains chain := by
    have hcount := (h chain).own rule hrule
    exact List.count_pos_iff.mp (Nat.lt_of_lt_of_le (List.count_pos_iff.mpr hmem) hcount)
  refine ⟨fun proto hproto => ⟨fun hfree => ?_, ?_⟩, fun proto hproto => ?_⟩
  · have hcount := (h .prerouting).old _ (List.mem_map_of_mem hproto)
    rw [List.count_eq_zero.mpr ((hredirected proto hproto).1 hfree)] at hcount
    exact List.count_eq_zero.mp (Nat.le_zero.mp hcount)
  · exact hown (List.mem_map_of_mem hproto) (hredirected proto hproto).2
  · exact hown (List.mem_map_of_mem hproto) (haccepted proto hproto)

/-- **Boots keep the rules**: whatever fails and wherever boots are stopped, no boot loses a rule of the
script, adds a legacy rule or touches any other rule; and none stacks a rule of the script, unless
`iptables` was locked in some boot. From a finished boot on, every protocol is redirected on the public
interface and let in; and on no other interface by a legacy rule, unless `iptables` was locked in that
boot. -/
theorem boots_keep_rules (hrun : bootSystem.Run first boots host) :
    RulesKept (boots.any Boot.locked) first host ∧ ∀ boot ∈ boots, boot.ending = .done →
      Redirected boot.locked protocols host.chains ∧ Accepted protocols host.chains := by
  refine ⟨(leftBehind_of_run hrun).1, fun boot hmem hdone => ?_⟩
  obtain ⟨before, after, rfl⟩ := List.append_of_mem hmem
  obtain ⟨start, -, hafter⟩ := hrun.split
  obtain ⟨middle, hstep, hrest⟩ := hafter.uncons
  have hbooted := booted_of_step hstep hdone
  exact (leftBehind_of_run hrest).1.ready hbooted.redirected hbooted.accepted

/-- Two boots of the example host, and then one that finds `iptables` locked: that one stacks a rule. -/
theorem boots_keep_rules_exampleHost :
    RulesKept false exampleHost exampleStranded ∧
      Redirected false protocols exampleStranded.chains ∧ RulesKept true exampleHost exampleLocked ∧
      Redirected false protocols exampleLocked.chains ∧
      (exampleStranded.chains .prerouting).count (scopedRule "tcp") = 1 ∧
      (exampleLocked.chains .prerouting).count (scopedRule "tcp") = 2 := by
  have hboth := (StepSystem.Run.single exampleRolled_step).snoc exampleStranded_step
  obtain ⟨hkept, hready⟩ := boots_keep_rules hboth
  obtain ⟨hlocked, hstill⟩ := boots_keep_rules (hboth.snoc exampleLocked_step)
  exact ⟨hkept, (hready _ List.mem_cons_self rfl).1, hlocked, (hstill _ List.mem_cons_self rfl).1,
    by decide +kernel, by decide +kernel⟩

/-- **Boots replace the container**: no boot touches another container, every `zeeder` container was
there at first or is of the image of some boot, and a finished boot leaves exactly one, which runs and
is of its image. -/
theorem boots_replace_zeeder (hrun : bootSystem.Run first boots host) :
    ContainersKept (boots.map Boot.image) first host ∧
      ∀ before last, boots = before ++ [last] → last.ending = .done → Serves last.image host := by
  refine ⟨(leftBehind_of_run hrun).2, ?_⟩
  rintro before last rfl hdone
  obtain ⟨start, -, hlast⟩ := StepSystem.run_concat_iff.mp hrun
  exact (booted_of_step hlast hdone).serves

/-- The first of them. -/
theorem boots_replace_zeeder_exampleHost :
    ContainersKept ["zeeder:2"] exampleHost exampleRolled ∧ Serves "zeeder:2" exampleRolled := by
  obtain ⟨hkept, hserves⟩ := boots_replace_zeeder (.single exampleRolled_step)
  exact ⟨hkept, hserves [] _ rfl rfl⟩

end Runs

end Zeeder.Deploy
