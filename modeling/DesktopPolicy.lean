import DesktopPolicy.Json.Writer
import DesktopPolicy.Proofs.ServiceAnswers
import DesktopPolicy.Rule.Draft
import DesktopPolicy.Service
import DesktopPolicy.Proofs.AccessCheck
import DesktopPolicy.Proofs.PatternRefusal
import DesktopPolicy.Proofs.HiddenRoles
import DesktopPolicy.Proofs.WildcardQuestions
import DesktopPolicy.Proofs.PatternAudit
import DesktopPolicy.Proofs.GrantSets
import DesktopPolicy.Proofs.JsonRoundTrip
import DesktopPolicy.Proofs.RoleRoundTrip
import DesktopPolicy.Proofs.AddressEscapes
import DesktopPolicy.Proofs.ReadingRoles
import DesktopPolicy.Proofs.RoleGrammar
import DesktopPolicy.Proofs.EnvironmentShape
import DesktopPolicy.Proofs.JsonGrammar
import DesktopPolicy.Proofs.Strangers
import DesktopPolicy.Proofs.ServiceFailures
import DesktopPolicy.Proofs.TornTexts
import DesktopPolicy.Proofs.ShownGrants
import DesktopPolicy.Proofs.NameRestrictions
import DesktopPolicy.Proofs.LogLineage
import DesktopPolicy.Proofs.LogSetup
import DesktopPolicy.Proofs.LogRuns
import DesktopPolicy.Proofs.RuleWidening
import DesktopPolicy.Proofs.DroppedScopes
import DesktopPolicy.Proofs.CanonicalUnions
import DesktopPolicy.Proofs.GrantMasks
import DesktopPolicy.Proofs.ListedResources
import DesktopPolicy.Proofs.RosterLookups
import DesktopPolicy.Proofs.RoleAddresses
import DesktopPolicy.Proofs.ScopedGates
import DesktopPolicy.Proofs.WordCounts
