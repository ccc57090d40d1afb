import ApiReconciler.Gateway.Script
import ApiReconciler.Main
import ApiReconciler.Proofs.ArrivalMap
import ApiReconciler.Proofs.Artifact
import ApiReconciler.Proofs.Authorizer.Convergence
import ApiReconciler.Proofs.Authorizer.Key
import ApiReconciler.Proofs.Authorizer.Names
import ApiReconciler.Proofs.Authorizer.Recognition
import ApiReconciler.Proofs.Authorizer.Repeats
import ApiReconciler.Proofs.Authorizer.Resolution
import ApiReconciler.Proofs.Authorizer.Safety
import ApiReconciler.Proofs.Authorizer.Scope
import ApiReconciler.Proofs.Authorizer.Synchronization
import ApiReconciler.Proofs.Binding.Bound
import ApiReconciler.Proofs.Binding.Hosted
import ApiReconciler.Proofs.Binding.Integrations
import ApiReconciler.Proofs.Binding.Mapping
import ApiReconciler.Proofs.Binding.Plan
import ApiReconciler.Proofs.CommandLine.Deploying
import ApiReconciler.Proofs.CommandLine.Keeping
import ApiReconciler.Proofs.Definition.BaseUrl
import ApiReconciler.Proofs.Definition.Endpoint
import ApiReconciler.Proofs.Definition.Normalize
import ApiReconciler.Proofs.Definition.Verdict
import ApiReconciler.Proofs.Deployer
import ApiReconciler.Proofs.Deployment
import ApiReconciler.Proofs.Digits
import ApiReconciler.Proofs.Discovery.Found
import ApiReconciler.Proofs.Discovery.Isolation
import ApiReconciler.Proofs.Discovery.Questions
import ApiReconciler.Proofs.Discovery.Recovered
import ApiReconciler.Proofs.Document.Loading
import ApiReconciler.Proofs.Gateway.Discipline
import ApiReconciler.Proofs.Gateway.Exchange
import ApiReconciler.Proofs.Gateway.Hosting
import ApiReconciler.Proofs.Gateway.Listings
import ApiReconciler.Proofs.Gateway.Memory
import ApiReconciler.Proofs.Gateway.Pages
import ApiReconciler.Proofs.Gateway.Staging
import ApiReconciler.Proofs.Gateway.Trace
import ApiReconciler.Proofs.Identifier
import ApiReconciler.Proofs.Json.Documents
import ApiReconciler.Proofs.Json.Numbers
import ApiReconciler.Proofs.Json.RoundTrip
import ApiReconciler.Proofs.Json.Strings
import ApiReconciler.Proofs.Lists
import ApiReconciler.Proofs.Members
import ApiReconciler.Proofs.NormalForm
import ApiReconciler.Proofs.Number.Shortest
import ApiReconciler.Proofs.Preparation
import ApiReconciler.Proofs.Reconcile.Accounting
import ApiReconciler.Proofs.Reconcile.Course
import ApiReconciler.Proofs.Reconcile.Failures
import ApiReconciler.Proofs.Reconcile.Hosted
import ApiReconciler.Proofs.Reconcile.Protection
import ApiReconciler.Proofs.Reconcile.Recovery
import ApiReconciler.Proofs.Reconcile.Reimport
import ApiReconciler.Proofs.Reconcile.Requests
import ApiReconciler.Proofs.Reconcile.Resources
import ApiReconciler.Proofs.Reconcile.Rollback
import ApiReconciler.Proofs.Reconcile.Stages
import ApiReconciler.Proofs.Reconcile.Teardown
import ApiReconciler.Proofs.Reference
import ApiReconciler.Proofs.Text
import ApiReconciler.Proofs.Url
import ApiReconciler.Proofs.CommandLine.Library
import ApiReconciler.Proofs.CommandLine.Answering
import ApiReconciler.Proofs.Session
import ApiReconciler.Proofs.Checked
import ApiReconciler.Proofs.Definition.Reread
import ApiReconciler.Proofs.Yaml.Written
import ApiReconciler.Proofs.Yaml.Cursor
import ApiReconciler.Proofs.Yaml.Tokens
import ApiReconciler.Proofs.Yaml.Lines
import ApiReconciler.Proofs.Yaml.BlankLine
import ApiReconciler.Proofs.CommandLine.Transforming
