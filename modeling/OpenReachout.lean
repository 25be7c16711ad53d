import OpenReachout.Relational.Table
import OpenReachout.Relational.Program
import OpenReachout.Relational.System
import OpenReachout.Relational.Statement
import OpenReachout.Schema
import OpenReachout.Text.Platform
import OpenReachout.Compliance.Validators
import OpenReachout.Core.Gatekeeper
import OpenReachout.Core.Canonical
import OpenReachout.Core.Queue
import OpenReachout.Core.Config
import OpenReachout.Core.Lifecycle
import OpenReachout.Core.Prospecting
import OpenReachout.Core.Events
import OpenReachout.Core.Worker
import OpenReachout.Properties.ClaimGates
import OpenReachout.Properties.ClaimSoundness
import OpenReachout.Properties.Runs
import OpenReachout.Relational.Solo
import OpenReachout.Properties.Refusals
import OpenReachout.Outreach.Deed
import OpenReachout.Relational.Commit
import OpenReachout.Relational.Triple
import OpenReachout.Outreach.Quiet
import OpenReachout.Outreach.Steps
import OpenReachout.Outreach.Drafts
import OpenReachout.Outreach.People
import OpenReachout.Outreach.Erasure
import OpenReachout.Outreach.Inbound
import OpenReachout.Outreach.Sending
import OpenReachout.Outreach.Laws
import OpenReachout.Outreach.Rows
import OpenReachout.Properties.Jobs
import OpenReachout.Properties.Stops
import OpenReachout.Properties.Touches
import OpenReachout.Properties.Backlog
import OpenReachout.Properties.Suppressions
import OpenReachout.Properties.Addresses
import OpenReachout.Properties.Proposals
import OpenReachout.Relational.Within
import OpenReachout.Outreach.Ordinary
import OpenReachout.Properties.Lifecycle
import OpenReachout.Adapters.Inbound
import OpenReachout.Outreach.Completions
import OpenReachout.Properties.Correlation
import OpenReachout.Properties.OptOuts
import OpenReachout.Outreach.Classification
import OpenReachout.Properties.Reruns
import OpenReachout.Properties.Replies
import OpenReachout.Properties.Screening
import OpenReachout.Outreach.Aliases
import OpenReachout.Properties.Aliases
import OpenReachout.Properties.Deliveries
import OpenReachout.Relational.Hearing
import OpenReachout.Properties.Recipients
import OpenReachout.Properties.Exchanges
import OpenReachout.Adapters.Polling
import OpenReachout.Properties.Polls
import OpenReachout.Agents.Composer
import OpenReachout.Properties.Groundedness
import OpenReachout.Properties.Contacts
import OpenReachout.Properties.Receipts
import OpenReachout.Relational.Seeing
import OpenReachout.Properties.Triggers
import OpenReachout.Outreach.Discipline
import OpenReachout.Properties.Trails
import OpenReachout.Core.Bandit
import OpenReachout.Outreach.Tallies
import OpenReachout.Properties.Guardrails
import OpenReachout.Properties.Prompts
import OpenReachout.Core.Dryrun
import OpenReachout.Properties.Envelopes
import OpenReachout.Properties.Compositions
import OpenReachout.Properties.Allowlists
import OpenReachout.Properties.Duplicates
import OpenReachout.Properties.Conversions
import OpenReachout.Core.SenderProfile
import OpenReachout.Properties.SenderProfiles
import OpenReachout.Properties.ApprovedClaims
import OpenReachout.Compliance.Claims
import OpenReachout.Properties.Registry
import OpenReachout.Properties.Canonicalization
import OpenReachout.Properties.Tokens
import OpenReachout.Properties.Bounces
import OpenReachout.Properties.Failures
import OpenReachout.Agents.Discovery
import OpenReachout.Properties.Discovery
import OpenReachout.Properties.Sentiment
import OpenReachout.Adapters.Gemini
import OpenReachout.Adapters.Nppes
import OpenReachout.Core.DnsCheck
import OpenReachout.Core.Metrics
import OpenReachout.Properties.Domains
import OpenReachout.Properties.Funnels
import OpenReachout.Properties.Paging
import OpenReachout.Properties.Schemas
import OpenReachout.Properties.Persons
import OpenReachout.Properties.Forgetting
import OpenReachout.Relational.Calls
import OpenReachout.Properties.Gaps
import OpenReachout.Properties.Transmissions
import OpenReachout.Relational.Heeding
import OpenReachout.Outreach.Claiming
import OpenReachout.Properties.Frequency
import OpenReachout.Outreach.Keeping
import OpenReachout.Properties.Queues
import OpenReachout.Properties.Reviews
import OpenReachout.Properties.Identities
import OpenReachout.Properties.Dispatches
import OpenReachout.Properties.HumanTasks
import OpenReachout.Relational.Lineage
import OpenReachout.Api.App
import OpenReachout.Properties.Access
import OpenReachout.Relational.Accounting
import OpenReachout.Properties.Audits
import OpenReachout.Properties.Caps
import OpenReachout.Relational.Consulting
import OpenReachout.Agents.Qualifier
import OpenReachout.Core.Rehearsal
import OpenReachout.Properties.Rehearsals
import OpenReachout.Text.Codec
import OpenReachout.Core.ConfigFiles
import OpenReachout.Properties.ConfigFiles
import OpenReachout.Agents.Synthesizer
import OpenReachout.Properties.Synthesis
import OpenReachout.Properties.Backends
