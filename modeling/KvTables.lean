import KvTables.Session
import KvTables.Proofs.Json.Arrangement
import KvTables.Proofs.Json.Draft
import KvTables.Proofs.Reading.Rendering
import KvTables.Proofs.Reading.Reads
import KvTables.Proofs.Reading.Records
import KvTables.Proofs.Reading.Trees
import KvTables.Proofs.Reading.Cursor
import KvTables.Proofs.Recovery.Backend
import KvTables.Proofs.Recovery.Tagged
import KvTables.Proofs.Recovery.Document
import KvTables.Proofs.Recovery.Form
import KvTables.Proofs.Creators.Provider
import KvTables.Proofs.Creators.History
import KvTables.Proofs.Reading.Leads
import KvTables.Proofs.Json.Repeats
import KvTables.Proofs.Reading.Showing
import KvTables.Proofs.Reading.Faithful
import KvTables.Proofs.Agreement.Readings
import KvTables.Proofs.Agreement.Records
import KvTables.Proofs.Agreement.Backend
import KvTables.Proofs.Agreement.Table
import KvTables.Proofs.Agreement.Tagged
import KvTables.Proofs.Agreement.Form
import KvTables.Proofs.Json.Unbroken
import KvTables.Proofs.Agreement.Text
import KvTables.Proofs.Yaml.Decimal
import KvTables.Proofs.Yaml.Tree
import KvTables.Proofs.Agreement.Yaml
import KvTables.Proofs.Entries.Parameters
import KvTables.Proofs.Reading.Promises
import KvTables.Proofs.Reading.Answers
import KvTables.Proofs.Reading.Forms
import KvTables.Proofs.Reading.Settled
import KvTables.Proofs.Entries.Places
import KvTables.Proofs.Factories.Definitions
import KvTables.Proofs.Factories.Tables
import KvTables.Proofs.Entries.Loading
import KvTables.Proofs.Logs.Laws
import KvTables.Proofs.Tasks.Basic
import KvTables.Proofs.Factories.Loading
import KvTables.Proofs.Logs.Candid
import KvTables.Proofs.Creators.Lines
import KvTables.Proofs.Tasks.Logs
import KvTables.Proofs.Tasks.Phases
import KvTables.Proofs.Yaml.Complete
import KvTables.Proofs.Documents.Apart
import KvTables.Proofs.Documents.Aside
import KvTables.Proofs.Documents.InPlace
import KvTables.Proofs.Documents.Entries
import KvTables.Proofs.Documents.Listed
import KvTables.Proofs.Factories.Documents
import KvTables.Proofs.Reading.Keyed
import KvTables.Proofs.Entries.Sources
import KvTables.Proofs.Entries.Unopened
import KvTables.Proofs.Sessions.Surroundings
import KvTables.Proofs.Text.Order
import KvTables.Proofs.Factories.Repeats
import KvTables.Proofs.Creators.Specs
import KvTables.Proofs.Reading.Refused
import KvTables.Proofs.Entries.Options
import KvTables.Proofs.Entries.Pointers
import KvTables.Proofs.Creators.Exported
